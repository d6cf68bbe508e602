import RgbNodeApi.Consignment

/-!
# Spellings of a txid

The lookup goes to the directory that is named as the client spelled the txid,
and the library names it in lower case.
-/
namespace RgbNodeApi

open Files

/-- A transaction id, as its bytes. -/
structure Txid where
  bytes : List UInt8
  length_eq : bytes.length = 32
  deriving DecidableEq

def Txid.lowerCase (t : Txid) : String := Hex.encode t.bytes

def Spells (s : String) (t : Txid) : Prop := Hex.decode s = some t.bytes

theorem Txid.ext_bytes {t u : Txid} (h : t.bytes = u.bytes) : t = u := by
  cases t
  cases u
  cases h
  rfl

theorem Txid.isTxid (t : Txid) : IsTxid t.lowerCase := by
  constructor
  · rw [lowerCase, Hex.length_encode, t.length_eq]
  · intro c hc
    exact Hex.isDigit_of_mem_encode hc

theorem spells_lowerCase (t : Txid) : Spells t.lowerCase t :=
  Hex.decode_of_digits (Hex.toList_encode t.bytes)

theorem spells_unique {s : String} {t u : Txid} (h : Spells s t) (h' : Spells s u) : t = u :=
  Txid.ext_bytes (Option.some.inj (h.symm.trans h'))

variable {D : Deps}

/-- The files where a wallet keeps the consignments of an asset hold what it
produced, under the lower-case txids, and there are no others. -/
structure Stores (w : D.Wallet) (assetId : String) (produced : Txid → Option Bytes) (fs : Fs) :
    Prop where
  held : ∀ t bytes, produced t = some bytes →
    fs (D.getSendConsignmentPath w assetId t.lowerCase) = .ok bytes
  nothingElse : ∀ s, IsTxid s →
    (∀ t bytes, produced t = some bytes →
      D.getSendConsignmentPath w assetId s ≠ D.getSendConsignmentPath w assetId t.lowerCase) →
    ∃ e, fs (D.getSendConsignmentPath w assetId s) = .error e ∧ e.kind = .notFound

/-- What a client is told about a spelling of a txid. -/
def consignmentAnswer (tempDir : Path) (env : Env D) (id : String) (st : RgbWalletState D) (fs : Fs)
    (assetId txid : String) : Option (RResult GetConsignmentRes) :=
  ((handleWalletCmd tempDir env id (.getConsignment ⟨assetId, txid⟩)).run (st, fs)).1

/-- What the wallet has to say about the transaction. -/
def consignmentOf (D : Deps) (produced : Txid → Option Bytes) (t : Txid) :
    Option (RResult GetConsignmentRes) :=
  match produced t with
  | some bytes => some (.ok ⟨D.hexEncode bytes⟩)
  | none => some (.error .noConsignment)

theorem consignmentAnswer_eq (tempDir : Path) (env : Env D) (id : String) (st : RgbWalletState D)
    (fs : Fs) (assetId txid : String) :
    consignmentAnswer tempDir env id st fs assetId txid =
      some (lookupConsignment ⟨assetId, txid⟩ st.wallet fs).res :=
  rfl

section

variable {walletDir : D.Wallet → Path} {assetDir : String → String} {file : String}
  (hd : ConsignmentDeps D walletDir assetDir file) {w : D.Wallet} {assetId : String}
  {m : D.Metadata} (hm : D.getAssetMetadata w assetId = .ok m)

include hd hm

/-- The path tells any two spellings apart. -/
theorem path_injective {s s' : String} (hs : IsTxid s) (hs' : IsTxid s')
    (h : D.getSendConsignmentPath w assetId s = D.getSendConsignmentPath w assetId s') :
    s = s' := by
  have hcomponents : ∀ r : GetConsignmentReq, r.assetId = assetId → IsTxid r.txid →
      (D.getSendConsignmentPath w assetId r.txid).components =
        (walletDir w).components ++ [r.txid, assetDir assetId, file] := by
    rintro ⟨_, txid⟩ rfl ht
    rw [hd.components ht hm]
  have hlists := congrArg Path.components h
  rw [hcomponents ⟨assetId, s⟩ rfl hs, hcomponents ⟨assetId, s'⟩ rfl hs'] at hlists
  simpa using hlists

variable {produced : Txid → Option Bytes} {fs : Fs} (hstores : Stores w assetId produced fs)

include hstores

omit hd in
/-- The lower-case spelling of a produced txid leads to its file. -/
theorem consignmentAnswer_held (tempDir : Path) (env : Env D) (id : String)
    {st : RgbWalletState D} (hw : st.wallet = w) {t : Txid} {bytes : Bytes}
    (hp : produced t = some bytes) :
    consignmentAnswer tempDir env id st fs assetId t.lowerCase =
      some (.ok ⟨D.hexEncode bytes⟩) := by
  rw [consignmentAnswer_eq, hw, lookupConsignment_known ⟨assetId, t.lowerCase⟩ w fs t.isTxid m hm]
  simp only [hstores.held t bytes hp]

/-- No other accepted text leads to a file. -/
theorem consignmentAnswer_missing (tempDir : Path) (env : Env D) (id : String)
    {st : RgbWalletState D} (hw : st.wallet = w) {s : String} (hs : IsTxid s) {t : Txid}
    (ht : Spells s t) (hnot : produced t = none ∨ s ≠ t.lowerCase) :
    consignmentAnswer tempDir env id st fs assetId s = some (.error .noConsignment) := by
  have hother : ∀ u bytes, produced u = some bytes →
      D.getSendConsignmentPath w assetId s ≠ D.getSendConsignmentPath w assetId u.lowerCase := by
    intro u bytes hu hpath
    have hspelling : s = u.lowerCase := path_injective hd hm hs u.isTxid hpath
    have hut : u = t := by
      apply spells_unique _ ht
      rw [hspelling]
      exact spells_lowerCase u
    subst hut
    obtain hnone | hne := hnot
    · rw [hnone] at hu
      cases hu
    · exact hne hspelling
  obtain ⟨e, hfile, hkind⟩ := hstores.nothingElse s hs hother
  rw [consignmentAnswer_eq, hw, lookupConsignment_known ⟨assetId, s⟩ w fs hs m hm]
  simp only [hfile, hkind, if_true]

/-- The answer is the one for the transaction exactly where nothing was produced or
the spelling is in lower case. -/
theorem consignmentAnswer_iff (tempDir : Path) (env : Env D) (id : String) {st : RgbWalletState D}
    (hw : st.wallet = w) {s : String} (hs : IsTxid s) {t : Txid} (ht : Spells s t) :
    consignmentAnswer tempDir env id st fs assetId s = consignmentOf D produced t ↔
      produced t = none ∨ s = t.lowerCase := by
  by_cases hspelling : s = t.lowerCase
  · subst hspelling
    refine iff_of_true ?_ (.inr rfl)
    cases hp : produced t with
    | none =>
      rw [consignmentAnswer_missing hd hm hstores tempDir env id hw hs ht (.inl hp)]
      simp only [consignmentOf, hp]
    | some bytes =>
      rw [consignmentAnswer_held hm hstores tempDir env id hw hp]
      simp only [consignmentOf, hp]
  · rw [consignmentAnswer_missing hd hm hstores tempDir env id hw hs ht (.inr hspelling)]
    cases hp : produced t with
    | none => simp [consignmentOf, hp]
    | some bytes => simp [consignmentOf, hp, hspelling]

/-- Any two accepted spellings of a txid get the answer for the transaction exactly
where nothing was produced or both are in lower case. -/
theorem txid_spelling_iff (tempDir : Path) (env : Env D) (id : String) (st : RgbWalletState D)
    (hw : st.wallet = w) (t : Txid) (s s' : String)
    (hs : (⟨assetId, s⟩ : GetConsignmentReq).validateTxid = .ok ())
    (hs' : (⟨assetId, s'⟩ : GetConsignmentReq).validateTxid = .ok ())
    (ht : Spells s t) (ht' : Spells s' t) :
    (consignmentAnswer tempDir env id st fs assetId s = consignmentOf D produced t ∧
      consignmentAnswer tempDir env id st fs assetId s' = consignmentOf D produced t) ↔
      produced t = none ∨ (s = t.lowerCase ∧ s' = t.lowerCase) := by
  rw [validateTxid_ok_iff] at hs hs'
  rw [consignmentAnswer_iff hd hm hstores tempDir env id hw hs ht,
    consignmentAnswer_iff hd hm hstores tempDir env id hw hs' ht', or_and_left]

end

/-! ## One consignment of the reference library -/

namespace Reference

def txid : Txid := ⟨List.replicate 32 0xab, List.length_replicate⟩

/-- The same txid in upper case. -/
def upperTxid : String := String.ofList ((List.replicate 32 ['A', 'B']).flatten)

def consignment : Bytes := [1, 2, 3]

def holder : RgbWalletState deps where
  id := key.masterFingerprint
  masterXpub := ""
  wallet := ⟨⟨key.xpubCol, key.xpubVan, none, key.masterFingerprint, none⟩, 0⟩
  walletOnline := ⟨.electrum "", false, 20, 604800, [], []⟩
  proxyHost := ∅
  senderProxy := none

def produced (t : Txid) : Option Bytes := if t = txid then some consignment else none

/-- A disk with the one consignment on it. -/
def consignmentFs : Fs :=
  Function.update (fun _ => absent)
    (getSendConsignmentPath holder.wallet assetId txid.lowerCase) (.ok consignment)

theorem stores : Stores (D := deps) holder.wallet assetId produced consignmentFs where
  held t bytes h := by
    unfold produced at h
    split at h
    · rename_i ht
      cases h
      rw [ht]
      exact Function.update_self ..
    · cases h
  nothingElse s _ h := by
    refine ⟨_, Function.update_of_ne ?_ _ _, rfl⟩
    exact h txid consignment (if_pos rfl)

theorem toList_upperTxid : upperTxid.toList = (List.replicate 32 ['A', 'B']).flatten :=
  String.toList_ofList

theorem spells_upperTxid : Spells upperTxid txid := by
  rw [Spells, Hex.decode, toList_upperTxid]
  rfl

theorem upperTxid_ne : upperTxid ≠ txid.lowerCase := by decide

theorem isTxid_upperTxid : IsTxid upperTxid := by
  rw [IsTxid, toList_upperTxid]
  constructor
  · rfl
  · exact List.all_eq_true.mp (by decide)

theorem accepts_upperTxid : (⟨assetId, upperTxid⟩ : GetConsignmentReq).validateTxid = .ok () :=
  (validateTxid_ok_iff ⟨assetId, upperTxid⟩).mpr isTxid_upperTxid

theorem accepts_lowerCase (t : Txid) :
    (⟨assetId, t.lowerCase⟩ : GetConsignmentReq).validateTxid = .ok () :=
  (validateTxid_ok_iff ⟨assetId, t.lowerCase⟩).mpr t.isTxid

/-- What the holder's wallet answers about a spelling. -/
def answered (s : String) : Option (RResult GetConsignmentRes) :=
  consignmentAnswer tempDir world key.masterFingerprint holder consignmentFs assetId s

end Reference

/-- The file is there for the txid in lower case and missing for the same in upper
case. -/
theorem txid_spelling_fails :
    (⟨Reference.assetId, Reference.upperTxid⟩ : GetConsignmentReq).validateTxid = .ok () ∧
    (⟨Reference.assetId, Reference.txid.lowerCase⟩ : GetConsignmentReq).validateTxid = .ok () ∧
    Spells Reference.upperTxid Reference.txid ∧
    Spells Reference.txid.lowerCase Reference.txid ∧
    Stores (D := Reference.deps) Reference.holder.wallet Reference.assetId Reference.produced
      Reference.consignmentFs ∧
    Reference.produced Reference.txid = some Reference.consignment ∧
    Reference.answered Reference.txid.lowerCase =
      some (.ok ⟨Hex.encode Reference.consignment⟩) ∧
    Reference.answered Reference.upperTxid = some (.error .noConsignment) := by
  have hproduced : Reference.produced Reference.txid = some Reference.consignment := if_pos rfl
  refine ⟨Reference.accepts_upperTxid, Reference.accepts_lowerCase _, Reference.spells_upperTxid,
    spells_lowerCase _, Reference.stores, hproduced, ?_, ?_⟩
  · exact consignmentAnswer_held (m := "asset") rfl Reference.stores _ _ _ rfl hproduced
  · exact consignmentAnswer_missing Reference.consignmentDeps (m := "asset") rfl Reference.stores
      _ _ _ rfl Reference.isTxid_upperTxid Reference.spells_upperTxid (.inr Reference.upperTxid_ne)

/-- The law at both spellings of the stored consignment. -/
theorem txid_spelling_iff_reference :
    ¬ (Reference.answered Reference.txid.lowerCase =
          consignmentOf Reference.deps Reference.produced Reference.txid ∧
        Reference.answered Reference.upperTxid =
          consignmentOf Reference.deps Reference.produced Reference.txid) := by
  unfold Reference.answered
  rw [txid_spelling_iff Reference.consignmentDeps (m := "asset") rfl Reference.stores
    Reference.tempDir Reference.world Reference.key.masterFingerprint Reference.holder rfl
    Reference.txid _ _ (Reference.accepts_lowerCase _) Reference.accepts_upperTxid
    (spells_lowerCase _) Reference.spells_upperTxid]
  rintro (hnone | ⟨-, hupper⟩)
  · cases hnone
  · exact Reference.upperTxid_ne hupper

end RgbNodeApi

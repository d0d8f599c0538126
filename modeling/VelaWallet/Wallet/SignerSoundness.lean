import Mathlib.Data.List.Nodup
import VelaWallet.Wallet.SetupSoundness

/-!
# Whose signer a signature names

The verifier of a signature is the owner that the setup of the same keys installs for
the key that signed.
-/

namespace VelaWallet.Safe

variable {setupData : List UInt8} {publicKey : P256PublicKey} {first key : WalletKey}

/-- The credential is the key's, whatever its mark and its case. -/
def WalletKey.answersTo (credentialId : String) (key : WalletKey) : Bool :=
  normalizeCredential key.credentialId == normalizeCredential credentialId

/-- The owner a later key signs through. -/
def deriveSigner [RadixErrors] (key : WalletKey) : Except CoreError String := do
  let key ← parsePublicKey key.publicKeyHex
  computeWebauthnSignerAddress key.x key.y

theorem signerAddressFor_eq [RadixErrors] {second : WalletKey} {rest : List WalletKey}
    (credentialId : String) :
    signerAddressFor (first :: second :: rest) (some credentialId) =
      if WalletKey.answersTo credentialId first then .ok webauthnSigner
      else
        match (second :: rest).find? (WalletKey.answersTo credentialId) with
        | none => .error (.invalidSignature "signing credential does not belong to this wallet")
        | some key => deriveSigner key := by
  have several : ¬ (first :: second :: rest).length ≤ 1 := by simp
  have test : (fun key : WalletKey => normalizeCredential key.credentialId ==
      normalizeCredential credentialId) = WalletKey.answersTo credentialId := rfl
  unfold signerAddressFor
  rw [if_neg several, List.find?_eq_map_findFinIdx?_getElem]
  simp only [test]
  rw [List.findFinIdx?_cons]
  cases WalletKey.answersTo credentialId first with
  | true => rfl
  | false =>
    cases List.findFinIdx? (WalletKey.answersTo credentialId) (second :: rest) with
    | none => rfl
    | some => rfl

theorem signerAddressFor_few [RadixErrors] {keys : List WalletKey} (few : keys.length ≤ 1)
    (credentialId : Option String) : signerAddressFor keys credentialId = .ok webauthnSigner := by
  unfold signerAddressFor
  exact if_pos few

theorem find?_distinct {keys : List WalletKey}
    (distinct : (keys.map fun key => normalizeCredential key.credentialId).Nodup)
    (member : key ∈ keys) {credentialId : String}
    (named : WalletKey.answersTo credentialId key = true) :
    keys.find? (WalletKey.answersTo credentialId) = some key := by
  cases found : keys.find? (WalletKey.answersTo credentialId) with
  | none => exact absurd named (List.find?_eq_none.mp found key member)
  | some =>
    have answers := List.find?_some found
    have among := List.mem_of_find?_eq_some found
    simp only [WalletKey.answersTo, beq_iff_eq] at named answers
    rw [List.inj_on_of_nodup_map distinct among member (answers.trans named.symm)]

def InstallsOwner (keys : List P256PublicKey) (setupData : List UInt8) (key : P256PublicKey)
    (owner : Address) : Prop :=
  ∃ setup, readSetup setupData = some setup ∧ (key, owner) ∈ (canonical keys).zip setup.owners

theorem mem_zip_of_forall₂ {α β : Type} {related : α → β → Prop} {items : List α}
    {images : List β} (all : List.Forall₂ related items images) {item : α}
    (member : item ∈ items) : ∃ image, related item image ∧ (item, image) ∈ items.zip images := by
  induction all with
  | nil => cases member
  | cons head _ ih =>
    rcases List.mem_cons.mp member with rfl | later
    · exact ⟨_, head, List.mem_cons_self⟩
    · obtain ⟨image, relates, placed⟩ := ih later
      exact ⟨image, relates, List.mem_cons_of_mem _ placed⟩

variable {rest : List P256PublicKey}

theorem Installs.first_owner [RadixErrors] {first : P256PublicKey}
    (installs : Installs first (sortKeys rest) setupData) :
    ∃ owner, parseAddress webauthnSigner = .ok owner ∧
      InstallsOwner (first :: rest) setupData first owner := by
  obtain ⟨contracts, owners, batch, named, _, read, _⟩ := installs
  exact ⟨contracts.signer, named.signer, _, read, List.mem_cons_self⟩

theorem Installs.later_owner [RadixErrors] {first : P256PublicKey}
    (installs : Installs first (sortKeys rest) setupData)
    {key : P256PublicKey} (member : key ∈ rest) :
    ∃ owner, Derives key owner ∧ InstallsOwner (first :: rest) setupData key owner := by
  obtain ⟨contracts, owners, batch, _, derived, read, _⟩ := installs
  obtain ⟨owner, derives, placed⟩ :=
    mem_zip_of_forall₂ derived ((sortKeys_perm rest).mem_iff.mpr member)
  exact ⟨owner, derives, _, read, List.mem_cons_of_mem _ placed⟩

/-- The answer is the owner installed for the key. -/
def SignsAs [RadixErrors] (keys : List P256PublicKey) (setupData : List UInt8) (key : WalletKey)
    (answer : Except CoreError String) : Prop :=
  ∃ text owner publicKey, answer = .ok text ∧ parseAddress text = .ok owner ∧
    parsePublicKey key.publicKeyHex = .ok publicKey ∧ InstallsOwner keys setupData publicKey owner

/-- The ids of the keys differ, whatever their marks and their cases. -/
def DistinctIds (keys : List WalletKey) : Prop :=
  (keys.map fun key => normalizeCredential key.credentialId).Nodup

theorem find?_shuffled {rest shuffled : List WalletKey} (distinct : DistinctIds rest)
    (same : rest.Perm shuffled) (credentialId : String) :
    rest.find? (WalletKey.answersTo credentialId) =
      shuffled.find? (WalletKey.answersTo credentialId) := by
  have shuffledDistinct : DistinctIds shuffled := (same.map _).nodup_iff.mp distinct
  cases found : rest.find? (WalletKey.answersTo credentialId) with
  | none =>
    symm
    rw [List.find?_eq_none]
    intro key member
    exact List.find?_eq_none.mp found key (same.mem_iff.mpr member)
  | some =>
    have answers := List.find?_some found
    have among := List.mem_of_find?_eq_some found
    exact (find?_distinct shuffledDistinct (same.mem_iff.mp among) answers).symm

theorem signerAddressFor_shuffled [RadixErrors] {rest shuffled : List WalletKey}
    (distinct : DistinctIds (first :: rest)) (same : rest.Perm shuffled)
    (credentialId : Option String) :
    signerAddressFor (first :: rest) credentialId =
      signerAddressFor (first :: shuffled) credentialId := by
  cases rest with
  | nil =>
    rw [List.nil_perm.mp same]
  | cons second rest =>
    cases shuffled with
    | nil => exact absurd same.length_eq (by simp)
    | cons =>
      cases credentialId with
      | none => simp [signerAddressFor]
      | some =>
        have later : DistinctIds (second :: rest) := (List.nodup_cons.mp distinct).2
        rw [signerAddressFor_eq, signerAddressFor_eq, find?_shuffled later same]

theorem first_signs [RadixErrors] (read : parsePublicKey first.publicKeyHex = .ok publicKey)
    (installs : Installs publicKey (sortKeys rest) setupData) :
    SignsAs (publicKey :: rest) setupData first (.ok webauthnSigner) := by
  obtain ⟨owner, signer, installed⟩ := installs.first_owner
  exact ⟨webauthnSigner, owner, publicKey, rfl, signer, read, installed⟩

theorem later_signs [RadixErrors] {first : P256PublicKey}
    (read : parsePublicKey key.publicKeyHex = .ok publicKey) (member : publicKey ∈ rest)
    (installs : Installs first (sortKeys rest) setupData) :
    SignsAs (first :: rest) setupData key (deriveSigner key) := by
  obtain ⟨owner, derives, installed⟩ := installs.later_owner member
  refine ⟨toChecksum owner, owner, publicKey, ?_, parseAddress_toChecksum owner, read, installed⟩
  exact Fallible.bind_ok.mpr ⟨publicKey, read, derives⟩

theorem key_signs [RadixErrors] {rest : List WalletKey} {publicKeys : List P256PublicKey}
    (read : parsePublicKey first.publicKeyHex = .ok publicKey)
    (laterRead : List.Forall₂ (fun key publicKey => parsePublicKey key.publicKeyHex = .ok publicKey)
      rest publicKeys)
    (installs : Installs publicKey (sortKeys publicKeys) setupData)
    (distinct : DistinctIds (first :: rest)) (member : key ∈ first :: rest)
    {credentialId : String} (named : WalletKey.answersTo credentialId key = true) :
    SignsAs (publicKey :: publicKeys) setupData key
      (signerAddressFor (first :: rest) (some credentialId)) := by
  rcases List.mem_cons.mp member with rfl | later
  · cases rest with
    | nil =>
      rw [signerAddressFor_few (show [key].length ≤ 1 from Nat.le_refl 1)]
      exact first_signs read installs
    | cons =>
      rw [signerAddressFor_eq, if_pos named]
      exact first_signs read installs
  · obtain ⟨fresh, others⟩ := List.nodup_cons.mp distinct
    have other : WalletKey.answersTo credentialId first = false := by
      rw [Bool.eq_false_iff]
      intro same
      simp only [WalletKey.answersTo, beq_iff_eq] at same named
      exact fresh (List.mem_map.mpr ⟨key, later, named.trans same.symm⟩)
    obtain ⟨laterKey, among, laterKeyRead⟩ := Fallible.forall₂_source laterRead later
    have signed := later_signs laterKeyRead among installs
    cases rest with
    | nil => cases later
    | cons =>
      rw [signerAddressFor_eq, other, find?_distinct others later named]
      exact signed

/-- A key's own credential, in any spelling, is answered with the owner the setup of the
wallet installs for the key; among several keys no other credential is answered; and the
order of the later keys moves no answer. -/
theorem signer_is_owner [RadixErrors] {keys : List WalletKey} {publicKeys : List P256PublicKey}
    {info : SafeAddressInfo}
    (read : (keys.map WalletKey.publicKeyHex).mapM parsePublicKey = .ok publicKeys)
    (computed : computeSafeAddressMulti publicKeys = .ok info) (distinct : DistinctIds keys) :
    (∀ key ∈ keys, ∀ credentialId, WalletKey.answersTo credentialId key = true →
        SignsAs publicKeys info.setupData key (signerAddressFor keys (some credentialId))) ∧
      (2 ≤ keys.length → ∀ credentialId,
        (∀ key ∈ keys, WalletKey.answersTo credentialId key = false) →
          ∃ message, signerAddressFor keys (some credentialId) = .error (.invalidSignature message)) ∧
      ∀ first rest shuffled, keys = first :: rest → rest.Perm shuffled → ∀ credentialId,
        signerAddressFor keys credentialId = signerAddressFor (first :: shuffled) credentialId := by
  have each := Fallible.mapM_ok.mp read
  rw [List.forall₂_map_left_iff] at each
  refine ⟨?_, ?_, ?_⟩
  · intro key member credentialId named
    cases each with
    | nil => cases member
    | cons firstRead laterRead =>
      exact key_signs firstRead laterRead (setup_installs computed).1 distinct member named
  · intro several credentialId foreign
    match keys, several, foreign with
    | first :: second :: rest, _, foreign =>
      have first_foreign := foreign first List.mem_cons_self
      have none : (second :: rest).find? (WalletKey.answersTo credentialId) = none := by
        rw [List.find?_eq_none]
        intro key member
        rw [foreign key (List.mem_cons_of_mem _ member)]
        exact Bool.false_ne_true
      rw [signerAddressFor_eq, first_foreign, none]
      exact ⟨_, rfl⟩
  · rintro first rest shuffled rfl same credentialId
    exact signerAddressFor_shuffled distinct same credentialId

def plainKeys : List WalletKey :=
  [⟨"aa01", writtenKey (plainKey 1 1)⟩, ⟨"bb02", writtenKey (plainKey 2 2)⟩]

theorem plainKeys_read : (plainKeys.map WalletKey.publicKeyHex).mapM parsePublicKey =
    .ok [plainKey 1 1, plainKey 2 2] := by
  have first : parsePublicKey (writtenKey (plainKey 1 1)) = .ok (plainKey 1 1) :=
    parsePublicKey_writtenKey ⟨by decide, by decide⟩
  have second : parsePublicKey (writtenKey (plainKey 2 2)) = .ok (plainKey 2 2) :=
    parsePublicKey_writtenKey ⟨by decide, by decide⟩
  simp only [plainKeys, List.map_cons, List.map_nil, List.mapM_cons, List.mapM_nil, first, second]
  rfl

/-- A key is known in any spelling of its id, and a foreign id is refused. -/
theorem plainKeys_sign :
    ∃ info, @computeSafeAddressMulti silentRadix [plainKey 1 1, plainKey 2 2] = .ok info ∧
      @SignsAs silentRadix [plainKey 1 1, plainKey 2 2] info.setupData
        ⟨"bb02", writtenKey (plainKey 2 2)⟩
        (@signerAddressFor silentRadix plainKeys (some "0xBB02")) ∧
      ∃ message, @signerAddressFor silentRadix plainKeys (some "cc03") =
        .error (.invalidSignature message) := by
  obtain ⟨info, computed⟩ := @plainKeys_computed silentRadix
  have signs := @signer_is_owner silentRadix plainKeys _ info plainKeys_read computed
    (by unfold DistinctIds; decide)
  exact ⟨info, computed,
    signs.1 ⟨"bb02", writtenKey (plainKey 2 2)⟩ (by simp [plainKeys]) "0xBB02" (by decide),
    signs.2.1 (by decide) "cc03" (by decide)⟩

/-- A wallet of one key answers any credential with the shared signer, and ids that differ in
their case alone are one id: the second key's own is answered as the first one's. -/
theorem lone_key_signs : ((∃ info, @computeSafeAddressMulti silentRadix [plainKey 1 1] = .ok info) ∧
      @signerAddressFor silentRadix [⟨"aa01", writtenKey (plainKey 1 1)⟩] (some "zz") =
        .ok webauthnSigner) ∧
      (∃ info, @computeSafeAddressMulti silentRadix [plainKey 1 1, plainKey 2 2] = .ok info) ∧
      @signerAddressFor silentRadix
        [⟨"aa01", writtenKey (plainKey 1 1)⟩, ⟨"AA01", writtenKey (plainKey 2 2)⟩] (some "AA01") =
          .ok webauthnSigner := by
  let _ := silentRadix
  refine ⟨⟨?_, ?_⟩, plainKeys_computed, ?_⟩
  · exact (computes_iff _).mpr ⟨by decide, by decide, by decide, by decide⟩
  · exact signerAddressFor_few (by decide) _
  · rw [signerAddressFor_eq, if_pos (by decide)]

end VelaWallet.Safe

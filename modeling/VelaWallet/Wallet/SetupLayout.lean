import VelaWallet.Wallet.SafeAddress

/-!
# What a setup calldata is made of

The bytes `encode_setup_data` writes, word by word: the head of `setup`, its owners,
and the packed batch behind them, one record for each call the deployment makes.
-/

namespace VelaWallet

open Utf8 (bytes ofAscii toAsciiLowercase asciiLower stripPrefix)
open Fallible (exists_ok)

variable {data : List UInt8} {key : P256PublicKey}

theorem asciiLower_asciiUpper {value : Nat} (small : value < 16) :
    asciiLower (asciiUpper (Hex.digit value)) = Hex.digit value := by
  have all : ∀ value < 16, asciiLower (asciiUpper (Hex.digit value)) = Hex.digit value := by
    decide
  exact all value small

theorem asciiLower_digit {value : Nat} (small : value < 16) :
    asciiLower (Hex.digit value) = Hex.digit value := by
  have all : ∀ value < 16, asciiLower (Hex.digit value) = Hex.digit value := by decide
  exact all value small

theorem exists_digit_of_mem_spell {byte : UInt8}
    (member : byte ∈ Hex.spell data) : ∃ value < 16, byte = Hex.digit value := by
  obtain ⟨source, _, inPair⟩ := List.mem_flatMap.mp member
  have bound := source.toNat_lt
  simp only [Hex.pair, List.mem_cons, List.not_mem_nil, or_false] at inPair
  rcases inPair with rfl | rfl
  · exact ⟨source.toNat / 16, by omega, rfl⟩
  · exact ⟨source.toNat % 16, by omega, rfl⟩

/-- Pairing a row with a longer one and undoing what the pairing did gives the
row. -/
theorem map_zipWith_left {α β : Type} {combine : α → β → α} {undo : α → α} {left : List α}
    {right : List β} (undone : ∀ item ∈ left, ∀ mark, undo (combine item mark) = item)
    (long : left.length ≤ right.length) : (List.zipWith combine left right).map undo = left := by
  induction left generalizing right with
  | nil => rfl
  | cons item _ ih =>
    cases right with
    | nil => simp at long
    | cons mark =>
      rw [List.zipWith_cons_cons, List.map_cons, undone item List.mem_cons_self mark,
        ih (fun other member => undone other (List.mem_cons_of_mem _ member))
          (Nat.le_of_succ_le_succ long)]

theorem checksumDigits_lower (address : Address) :
    toAsciiLowercase (checksumDigits address) = Hex.spell address.bytes := by
  apply map_zipWith_left
  · intro byte member mark
    obtain ⟨value, small, rfl⟩ := exists_digit_of_mem_spell member
    split
    · exact asciiLower_asciiUpper small
    · exact asciiLower_digit small
  · simp [address.length_eq]

theorem Spelled.of_lower {text : List UInt8} (spelled : Spelled (toAsciiLowercase text) data) :
    Spelled text data := by
  induction data generalizing text with
  | nil =>
    have sized := spelled.length
    rw [toAsciiLowercase, List.length_map, List.length_nil] at sized
    rw [List.length_eq_zero_iff.mp sized]
    exact .nil
  | cons _ _ ih =>
    have sized := spelled.length
    rw [toAsciiLowercase, List.length_map, List.length_cons] at sized
    rcases text with _ | ⟨high, _ | ⟨low, text⟩⟩
    · rw [List.length_nil] at sized
      omega
    · rw [List.length_singleton] at sized
      omega
    · have lowered : toAsciiLowercase (high :: low :: text) =
          asciiLower high :: asciiLower low :: toAsciiLowercase text := rfl
      rw [lowered] at spelled
      cases spelled with
      | cons read tail =>
        have pair : toAsciiLowercase [high, low] = [asciiLower high, asciiLower low] := rfl
        rw [← pair, Hex.fromStrRadix16_toAsciiLowercase] at read
        exact .cons read (ih tail)

theorem spelled_checksumDigits (address : Address) :
    Spelled (checksumDigits address) address.bytes := by
  apply Spelled.of_lower
  rw [checksumDigits_lower]
  exact spelled_spell address.bytes

theorem bytes_toChecksum (address : Address) :
    Utf8.bytes (toChecksum address) = hexMark ++ checksumDigits address := by
  apply Utf8.bytes_ofAscii
  intro byte member
  rcases List.mem_append.mp member with mark | digit
  · simp only [hexMark, List.mem_cons, List.not_mem_nil, or_false] at mark
    rcases mark with rfl | rfl <;> decide
  · exact ((spelled_checksumDigits address).visible byte digit).2

theorem fromHex_toChecksum (address : Address) :
    fromHex (toChecksum address) = .ok address.bytes := by
  rw [fromHex, bytes_toChecksum, fromHexBytes_iff, stripPrefix_mark_append]
  exact spelled_checksumDigits address

theorem parseAddress_toChecksum (address : Address) :
    parseAddress (toChecksum address) = .ok address := by
  rw [parseAddress_ok]
  exact fromHex_toChecksum address

theorem toChecksum_injective {left right : Address} (equal : toChecksum left = toChecksum right) :
    left = right := by
  have read := parseAddress_toChecksum left
  rw [equal, parseAddress_toChecksum] at read
  exact (Except.ok.inj read).symm

theorem create2Address_ok {deployerHex : String} {deployer : Address}
    {salt initCodeHash : List UInt8} (read : parseAddress deployerHex = .ok deployer)
    (saltWide : salt.length = 32) (hashWide : initCodeHash.length = 32) :
    create2Address deployerHex salt initCodeHash =
      .ok (toChecksum (deployer.create2 salt initCodeHash)) := by
  simp only [create2Address, read, saltWide, hashWide]
  rfl

theorem abiEncodeBytes32_wide (wide : data.length = 32) :
    abiEncodeBytes32 data = .ok data := by
  simp [abiEncodeBytes32, wide]

theorem exists_pair {high low : UInt8} (highDigit : Hex.IsDigit high) (lowDigit : Hex.IsDigit low) :
    ∃ byte, Hex.fromStrRadix16 [high, low] = some byte := by
  obtain ⟨top, topRead⟩ := Option.isSome_iff_exists.mp highDigit
  obtain ⟨bottom, bottomRead⟩ := Option.isSome_iff_exists.mp lowDigit
  have topSmall := Hex.digitValue?_lt topRead
  have bottomSmall := Hex.digitValue?_lt bottomRead
  have unsigned : high ≠ Hex.plus := by
    rintro rfl
    rw [Hex.digitValue?_plus] at topRead
    cases topRead
  refine ⟨UInt8.ofNat (top * 16 + bottom), (Hex.fromStrRadix16_digits unsigned).mpr ?_⟩
  have value : (UInt8.ofNat (top * 16 + bottom)).toNat = top * 16 + bottom := by
    rw [UInt8.toNat_ofNat', Nat.mod_eq_of_lt (by omega)]
  rw [value, topRead, bottomRead]
  constructor
  · exact congrArg some (by omega)
  · exact congrArg some (by omega)

theorem exists_spelled : ∀ {text : List UInt8}, (∀ byte ∈ text, Hex.IsDigit byte) →
    text.length % 2 = 0 → ∃ data, Spelled text data
  | [], _, _ => ⟨[], .nil⟩
  | [_], _, even => by simp at even
  | high :: low :: text, digits, even => by
      obtain ⟨byte, read⟩ := exists_pair (digits high (by simp)) (digits low (by simp))
      obtain ⟨data, spelled⟩ := @exists_spelled text
        (fun other member => digits other (by simp [member])) (by
          rw [List.length_cons, List.length_cons] at even
          omega)
      exact ⟨byte :: data, .cons read spelled⟩

def isHexChar (character : Char) : Bool :=
  character.toNat < 128 && (Hex.digitValue? (UInt8.ofNat character.toNat)).isSome

theorem fromHex_ofList (characters : List Char)
    (fine : (characters.all isHexChar && characters.length % 2 == 0) = true) :
    ∃ data, fromHex (String.ofList characters) = .ok data := by
  rw [Bool.and_eq_true, List.all_eq_true, beq_iff_eq] at fine
  have each : ∀ character ∈ characters, character.toNat < 128 ∧
      Hex.IsDigit (UInt8.ofNat character.toNat) := by
    intro character member
    have good := fine.1 character member
    simp only [isHexChar, Bool.and_eq_true, decide_eq_true_eq] at good
    exact good
  have written := Decimal.bytes_ofList_ascii fun character member => (each character member).1
  have digits : ∀ byte ∈ bytes (String.ofList characters), Hex.IsDigit byte := by
    rw [written]
    intro byte member
    obtain ⟨character, inside, rfl⟩ := List.mem_map.mp member
    exact (each character inside).2
  obtain ⟨data, spelled⟩ := exists_spelled digits (by rw [written, List.length_map]; exact fine.2)
  refine ⟨data, ?_⟩
  rw [fromHex, fromHexBytes_iff, stripPrefix_of_digits digits]
  exact spelled

theorem abiEncodeAddress_ok {text : String} {address : Address}
    (read : parseAddress text = .ok address) : abiEncodeAddress text = .ok address.word := by
  rw [abiEncodeAddress_eq, read]
  rfl

namespace Safe

theorem parse_constants : (∃ address, parseAddress safeProxyFactory = .ok address) ∧
      (∃ address, parseAddress safeSingleton = .ok address) ∧
      (∃ address, parseAddress safe4337Module = .ok address) ∧
      (∃ address, parseAddress safeModuleSetup = .ok address) ∧
      (∃ address, parseAddress webauthnSigner = .ok address) ∧
      (∃ address, parseAddress webauthnSignerFactory = .ok address) ∧
      (∃ address, parseAddress webauthnSignerSingleton = .ok address) ∧
      (∃ address, parseAddress multiSend = .ok address) ∧
      ∃ address, parseAddress zeroAddress = .ok address :=
  ⟨exists_ok (by decide), exists_ok (by decide), exists_ok (by decide),
    exists_ok (by decide), exists_ok (by decide), exists_ok (by decide),
    exists_ok (by decide), exists_ok (by decide), exists_ok (by decide)⟩

set_option maxRecDepth 20000 in
theorem signerCode_hex : ∃ code, fromHex webauthnSignerProxyCreationCode = .ok code := by
  unfold webauthnSignerProxyCreationCode
  exact fromHex_ofList _ (by decide)

set_option maxRecDepth 20000 in
theorem proxyCode_hex : ∃ code, fromHex proxyCreationCode = .ok code := by
  unfold proxyCreationCode
  exact fromHex_ofList _ (by decide)

/-- Coordinates of the width the curve has. -/
def Wide (key : P256PublicKey) : Prop := key.x.length = 32 ∧ key.y.length = 32

theorem requireCoords_ok {x y : List UInt8} {done : Unit} :
    requireCoords x y = .ok done ↔ x.length = 32 ∧ y.length = 32 := by
  simp [requireCoords]

theorem requireCoords_wide (wide : Wide key) :
    requireCoords key.x key.y = .ok () := requireCoords_ok.mpr wide

theorem keyWords_wide (wide : Wide key) :
    keyWords key = .ok (key.x ++ key.y) := by
  simp only [keyWords, abiEncodeBytes32_wide wide.1, abiEncodeBytes32_wide wide.2]
  rfl

theorem uint_constants [RadixErrors] :
    abiEncodeUint256 "0x0" = .ok (Abi.word 0) ∧ abiEncodeUint256 "0x1" = .ok (Abi.word 1) ∧
      abiEncodeUint256 "0x20" = .ok (Abi.word 32) ∧
      abiEncodeUint256 "0x100" = .ok (Abi.word 256) ∧
      abiEncodeUint256 webauthnVerifiersHex = .ok (Abi.word 256) := by
  refine ⟨?_, ?_, ?_, ?_, ?_⟩
  all_goals
    apply abiEncodeUint256_of_digits
    · decide
    · decide

theorem keyCall_wide [RadixErrors] (signature : String) (wide : Wide key) :
    keyCall signature key.x key.y =
      .ok (selectorOf signature ++ key.x ++ key.y ++ Abi.word 256) := by
  simp only [keyCall, functionSelector_eq, abiEncodeBytes32_wide wide.1,
    abiEncodeBytes32_wide wide.2, uint_constants.2.2.2.2]
  rfl

theorem computeWebauthnSignerAddress_wide [RadixErrors] (wide : Wide key) :
    ∃ owner, computeWebauthnSignerAddress key.x key.y = .ok (toChecksum owner) := by
  obtain ⟨code, codeRead⟩ := signerCode_hex
  obtain ⟨singleton, singletonRead⟩ := parse_constants.2.2.2.2.2.2.1
  obtain ⟨factory, factoryRead⟩ := parse_constants.2.2.2.2.2.1
  refine ⟨factory.create2 (List.replicate 32 0)
    (Keccak.keccak256 (code ++ singleton.word ++ key.x ++ key.y ++ Abi.word 256)), ?_⟩
  simp only [computeWebauthnSignerAddress, requireCoords_wide wide, codeRead, abiEncodeAddress_eq,
    singletonRead, abiEncodeBytes32_wide wide.1, abiEncodeBytes32_wide wide.2,
    uint_constants.2.2.2.2]
  exact create2Address_ok factoryRead List.length_replicate (Keccak.keccak256_length _)

def enableModulesData (contract : Address) : List UInt8 :=
  selectorOf "enableModules(address[])" ++ Abi.word 32 ++ Abi.word 1 ++ contract.word

def keyCallData (signature : String) (key : P256PublicKey) : List UInt8 :=
  selectorOf signature ++ key.x ++ key.y ++ Abi.word 256

theorem keyCallData_length (signature : String) (wide : Wide key) :
    (keyCallData signature key).length = 100 := by
  simp [keyCallData, wide.1, wide.2]

/-- The addresses a deployment names. -/
structure Contracts where
  module : Address
  moduleSetup : Address
  signer : Address
  factory : Address
  multiSend : Address
  zero : Address

/-- The addresses are those of the deployment's constants. -/
structure Contracts.Named (contracts : Contracts) : Prop where
  module : parseAddress safe4337Module = .ok contracts.module
  moduleSetup : parseAddress safeModuleSetup = .ok contracts.moduleSetup
  signer : parseAddress webauthnSigner = .ok contracts.signer
  factory : parseAddress webauthnSignerFactory = .ok contracts.factory
  multiSend : parseAddress Safe.multiSend = .ok contracts.multiSend
  zero : parseAddress zeroAddress = .ok contracts.zero

theorem exists_contracts : ∃ contracts : Contracts, contracts.Named := by
  obtain ⟨-, -, ⟨contract, contractRead⟩, ⟨setup, setupRead⟩, ⟨signer, signerRead⟩,
    ⟨factory, factoryRead⟩, -, ⟨sender, senderRead⟩, ⟨zero, zeroRead⟩⟩ := parse_constants
  exact ⟨⟨contract, setup, signer, factory, sender, zero⟩,
    ⟨contractRead, setupRead, signerRead, factoryRead, senderRead, zeroRead⟩⟩

/-- The delegatecall that enables the module. -/
def enableCall (contracts : Contracts) : PackedCall :=
  ⟨1, contracts.moduleSetup, 0, enableModulesData contracts.module, PackedCall.zero_lt⟩

/-- The delegatecall that gives the shared signer its key. -/
def configureCall (contracts : Contracts) (key : P256PublicKey) : PackedCall :=
  ⟨1, contracts.signer, 0, keyCallData "configure((uint256,uint256,uint176))" key,
    PackedCall.zero_lt⟩

/-- The call that deploys a later key's signer. -/
def createSignerCall (contracts : Contracts) (key : P256PublicKey) : PackedCall :=
  ⟨0, contracts.factory, 0, keyCallData "createSigner(uint256,uint256,uint176)" key,
    PackedCall.zero_lt⟩

/-- The calls of a deployment, in the order they are made. -/
def setupCalls (contracts : Contracts) (first : P256PublicKey) (extraKeys : List P256PublicKey) :
    List PackedCall :=
  enableCall contracts :: configureCall contracts first ::
    extraKeys.map (createSignerCall contracts)

theorem encodeMultisendTx_call [RadixErrors] {target : String} {call : PackedCall}
    (read : parseAddress target = .ok call.target) (free : call.value = 0)
    (short : call.data.length < 2 ^ 256) :
    encodeMultisendTx target call.data call.operation = .ok call.bytes := by
  have zeros : Abi.word 0 = List.replicate 32 0 := beBytes_zero 32
  simp only [encodeMultisendTx, read, abiEncodeUint256_hexDigits short]
  simp only [bind, Except.bind, pure, Except.pure, PackedCall.bytes, free, zeros,
    List.append_assoc]

/-- The key's owner is the proxy its signer is deployed at. -/
def Derives [RadixErrors] (key : P256PublicKey) (owner : Address) : Prop :=
  computeWebauthnSignerAddress key.x key.y = .ok (toChecksum owner)

theorem extraSigner_call [RadixErrors] {contracts : Contracts} (named : contracts.Named)
    (wide : Wide key) :
    ∃ owner, Derives key owner ∧
      extraSigner key = .ok (toChecksum owner, (createSignerCall contracts key).bytes) := by
  obtain ⟨owner, signer⟩ := computeWebauthnSignerAddress_wide wide
  refine ⟨owner, signer, ?_⟩
  have written : encodeMultisendTx webauthnSignerFactory
      (keyCallData "createSigner(uint256,uint256,uint176)" key) 0 =
        .ok (createSignerCall contracts key).bytes := by
    apply @encodeMultisendTx_call _ _ (createSignerCall contracts key) named.factory rfl
    exact lt_of_eq_of_lt (keyCallData_length _ wide) (by decide)
  simp only [extraSigner, signer, keyCall_wide _ wide]
  change (encodeMultisendTx _ (keyCallData _ key) _ >>= _) = _
  rw [written]
  rfl

theorem extraSigners_calls [RadixErrors] {contracts : Contracts} (named : contracts.Named)
    {keys : List P256PublicKey} (wide : ∀ key ∈ keys, Wide key) :
    ∃ owners extras, List.Forall₂ Derives keys owners ∧ keys.mapM extraSigner = .ok extras ∧
      extras.map Prod.fst = owners.map toChecksum ∧
      extras.flatMap Prod.snd = PackedCall.packed (keys.map (createSignerCall contracts)) := by
  induction keys with
  | nil => exact ⟨[], [], .nil, rfl, rfl, rfl⟩
  | cons key _ ih =>
    obtain ⟨owner, derived, built⟩ := extraSigner_call named (wide key List.mem_cons_self)
    obtain ⟨owners, extras, all, rest, texts, calls⟩ :=
      ih fun other member => wide other (List.mem_cons_of_mem _ member)
    refine ⟨owner :: owners, (toChecksum owner, (createSignerCall contracts key).bytes) :: extras,
      .cons derived all, ?_, ?_, ?_⟩
    · rw [List.mapM_cons, built, rest]
      rfl
    · rw [List.map_cons, List.map_cons, texts]
    · rw [List.flatMap_cons, calls, List.map_cons, PackedCall.packed_cons]

theorem encode_owners {extras : List (String × List UInt8)} {owners : List Address}
    (named : extras.map Prod.fst = owners.map toChecksum) :
    (extras.mapM fun extra => abiEncodeAddress extra.1) = .ok (owners.map Address.word) := by
  induction extras generalizing owners with
  | nil =>
    cases owners with
    | nil => rfl
    | cons => cases named
  | cons _ _ ih =>
    cases owners with
    | nil => cases named
    | cons =>
      rw [List.map_cons, List.map_cons, List.cons.injEq] at named
      rw [List.mapM_cons, named.1, ih named.2, abiEncodeAddress_eq, parseAddress_toChecksum]
      rfl

theorem multiSendData_packed [RadixErrors] {calls : List PackedCall}
    (short : (PackedCall.packed calls).length < 2 ^ 256) :
    multiSendData (PackedCall.packed calls) = .ok (CallData.multiSend calls) := by
  simp only [multiSendData, functionSelector_eq, uint_constants.2.2.1,
    abiEncodeUint256_hexDigits short]
  simp only [bind, Except.bind, pure, Except.pure, CallData.multiSend, Abi.padded,
    multiSendSignature, List.append_assoc]

/-- The signature `setup` is called by. -/
def setupSignature : String :=
  "setup(address[],uint256,address,bytes,address,address,uint256,address)"

/-- The words of `setup`: its head, and its owners. -/
def setupWords (contracts : Contracts) (owners : List Address) : List (List UInt8) :=
  [Abi.word 256, Abi.word 1, contracts.multiSend.word, Abi.word (288 + owners.length * 32),
    contracts.module.word, contracts.zero.word, Abi.word 0, contracts.zero.word] ++
    Abi.word owners.length :: owners.map Address.word

/-- The calldata of `setup`, written. -/
def setupDataOf (contracts : Contracts) (owners : List Address) (calls : List PackedCall) :
    List UInt8 :=
  selectorOf setupSignature ++
    ((setupWords contracts owners).flatten ++ Abi.padded (CallData.multiSend calls))

theorem setupCalls_length (contracts : Contracts) {first : P256PublicKey}
    {extraKeys : List P256PublicKey} (firstWide : Wide first) (wide : ∀ key ∈ extraKeys, Wide key) :
    (PackedCall.packed (setupCalls contracts first extraKeys)).length =
      370 + 185 * extraKeys.length := by
  have later : (PackedCall.packed (extraKeys.map (createSignerCall contracts))).length =
      185 * extraKeys.length := by
    induction extraKeys with
    | nil => rfl
    | cons key _ ih =>
      have data : (createSignerCall contracts key).data.length = 100 :=
        keyCallData_length _ (wide key List.mem_cons_self)
      rw [List.map_cons, PackedCall.packed_cons, List.length_append, PackedCall.bytes_length, data,
        ih fun other member => wide other (List.mem_cons_of_mem _ member), List.length_cons]
      omega
  have enable : (enableCall contracts).data.length = 100 := by
    simp [enableCall, enableModulesData]
  have configure : (configureCall contracts first).data.length = 100 :=
    keyCallData_length _ firstWide
  rw [setupCalls, PackedCall.packed_cons, PackedCall.packed_cons, List.length_append,
    List.length_append, PackedCall.bytes_length, PackedCall.bytes_length, enable, configure, later]
  omega

theorem multiSend_length_le (calls : List PackedCall) :
    (CallData.multiSend calls).length ≤ (PackedCall.packed calls).length + 100 := by
  have padding : Bytes.wordPadding (PackedCall.packed calls).length < 32 :=
    Nat.mod_lt _ (by decide)
  simp only [CallData.multiSend, Abi.padded, List.length_append, selectorOf_length,
    Abi.word_length, List.length_replicate]
  omega

/-- The setup calldata of a few keys of the curve's width: the shared signer and the later
keys' proxies own the account, and the batch makes the deployment's calls. -/
theorem encodeSetupData_eq [RadixErrors] {contracts : Contracts} (named : contracts.Named)
    {first : P256PublicKey} {extraKeys : List P256PublicKey} (firstWide : Wide first)
    (wide : ∀ key ∈ extraKeys, Wide key) (few : extraKeys.length ≤ maxMultiKeys) :
    ∃ owners, List.Forall₂ Derives extraKeys owners ∧
      encodeSetupData first.x first.y extraKeys =
        .ok (setupDataOf contracts (contracts.signer :: owners)
          (setupCalls contracts first extraKeys)) := by
  obtain ⟨owners, extras, derived, signers, texts, calls⟩ := extraSigners_calls named wide
  refine ⟨owners, derived, ?_⟩
  obtain ⟨zeroWord, oneWord, wordWord, offsetWord, -⟩ := uint_constants
  have counted : extras.length = owners.length := by
    have sized := congrArg List.length texts
    rwa [List.length_map, List.length_map] at sized
  have ownersFew : owners.length ≤ 7 := by
    rw [← derived.length_eq]
    exact few
  have modules : enableModules = .ok (enableModulesData contracts.module) := by
    simp only [enableModules, functionSelector_eq, wordWord, oneWord, abiEncodeAddress_ok named.module]
    rfl
  have enabled : encodeMultisendTx safeModuleSetup (enableModulesData contracts.module) 1 =
      .ok (enableCall contracts).bytes := by
    apply @encodeMultisendTx_call _ _ (enableCall contracts) named.moduleSetup rfl
    simp [enableCall, enableModulesData]
  have configured : encodeMultisendTx webauthnSigner
      (keyCallData "configure((uint256,uint256,uint176))" first) 1 =
        .ok (configureCall contracts first).bytes := by
    apply @encodeMultisendTx_call _ _ (configureCall contracts first) named.signer rfl
    exact lt_of_eq_of_lt (keyCallData_length _ firstWide) (by decide)
  have packed : (enableCall contracts).bytes ++ (configureCall contracts first).bytes ++
      extras.flatMap Prod.snd = PackedCall.packed (setupCalls contracts first extraKeys) := by
    rw [calls, setupCalls, PackedCall.packed_cons, PackedCall.packed_cons, List.append_assoc]
  have sized := setupCalls_length contracts firstWide wide
  have sent := multiSend_length_le (setupCalls contracts first extraKeys)
  have sending := @multiSendData_packed _ (setupCalls contracts first extraKeys) (by
    simp only [maxMultiKeys] at few
    omega)
  have dataOffset := @abiEncodeUint256_hexDigits (0x120 + (1 + extras.length) * 0x20) _ (by omega)
  have ownersLength := @abiEncodeUint256_hexDigits (1 + extras.length) _ (by omega)
  have dataLength := @abiEncodeUint256_hexDigits
    (CallData.multiSend (setupCalls contracts first extraKeys)).length _ (by
      simp only [maxMultiKeys] at few
      omega)
  have keyCalled : keyCall "configure((uint256,uint256,uint176))" first.x first.y =
      .ok (keyCallData "configure((uint256,uint256,uint176))" first) := keyCall_wide _ firstWide
  simp only [encodeSetupData, modules, keyCalled, functionSelector_eq, zeroWord,
    oneWord, offsetWord, abiEncodeAddress_ok named.multiSend, abiEncodeAddress_ok named.module,
    abiEncodeAddress_ok named.zero, abiEncodeAddress_ok named.signer]
  simp only [bind, Except.bind, enabled, configured, signers, packed, sending]
  rw [dataOffset, ownersLength, encode_owners texts, dataLength]
  have total : 1 + extras.length = (contracts.signer :: owners).length := by
    rw [counted, List.length_cons, Nat.add_comm]
  simp only [pure, Except.pure, total, setupDataOf, setupWords, setupSignature, Abi.padded,
    List.map_cons, List.flatten_cons, List.append_assoc, List.cons_append, List.nil_append]


end Safe

end VelaWallet

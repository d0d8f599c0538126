import VelaWallet.Wallet.InitCode
import VelaWallet.Wallet.SafeAddressSoundness

/-!
# What a deployment installs

The setup calldata and the factory call read back by the standard ABI rules: the owners
the account is created with, the calls its deployment makes, and the salt behind its
address.
-/

namespace VelaWallet

namespace Safe

structure SetupArguments where
  owners : List Address
  threshold : Nat
  target : Address
  data : List UInt8
  fallbackHandler : Address
  paymentToken : Address
  payment : Nat
  paymentReceiver : Address

def arguments? (signature : String) (callData : List UInt8) : Option (List UInt8) :=
  if callData.take 4 = selectorOf signature then some (callData.drop 4) else none

/-- `setup`, read. -/
def readSetup (callData : List UInt8) : Option SetupArguments := do
  let arguments ← arguments? setupSignature callData
  let owners ← Abi.arrayArg? addressAt? arguments 0
  let threshold ← Abi.wordAt? arguments 32
  let target ← addressAt? arguments 64
  let data ← Abi.bytesArg? arguments 96
  let fallbackHandler ← addressAt? arguments 128
  let paymentToken ← addressAt? arguments 160
  let payment ← Abi.wordAt? arguments 192
  let paymentReceiver ← addressAt? arguments 224
  return { owners, threshold, target, data, fallbackHandler, paymentToken, payment, paymentReceiver }

/-- `multiSend`, read: the calls of its batch. -/
def readMultiSend (callData : List UInt8) : Option (List PackedCall) := do
  let arguments ← arguments? multiSendSignature callData
  let payload ← Abi.bytesArg? arguments 0
  PackedCall.unpack payload

/-- `enableModules`, read. -/
def readEnableModules (callData : List UInt8) : Option (List Address) := do
  let arguments ← arguments? "enableModules(address[])" callData
  Abi.arrayArg? addressAt? arguments 0

/-- A call that takes a key and the verifiers, read. -/
def readKeyCall (signature : String) (callData : List UInt8) : Option (P256PublicKey × Nat) := do
  let arguments ← arguments? signature callData
  let x ← Bytes.slice? arguments 0 32
  let y ← Bytes.slice? arguments 32 32
  let verifiers ← Abi.wordAt? arguments 64
  return (⟨x, y⟩, verifiers)

structure FactoryCall where
  factory : Address
  singleton : Address
  initializer : List UInt8
  saltNonce : List UInt8

def readCreateProxy (initCode : List UInt8) : Option FactoryCall := do
  let factory ← Bytes.slice? initCode 0 20
  let arguments ← arguments? createProxySignature (initCode.drop 20)
  let singleton ← addressAt? arguments 0
  let initializer ← Abi.bytesArg? arguments 32
  let saltNonce ← Bytes.slice? arguments 64 32
  if sized : factory.length = 20 then return ⟨⟨factory, sized⟩, singleton, initializer, saltNonce⟩
  else none

theorem arguments?_call (signature : String) (rest : List UInt8) :
    arguments? signature (selectorOf signature ++ rest) = some rest := by
  rw [arguments?, List.take_left' (selectorOf_length signature),
    List.drop_left' (selectorOf_length signature), if_pos rfl]

theorem readKeyCall_data (signature : String) {key : P256PublicKey} (wide : Wide key) :
    readKeyCall signature (keyCallData signature key) = some (key, 256) := by
  have written : keyCallData signature key =
      selectorOf signature ++ (key.x ++ (key.y ++ (Abi.word 256 ++ []))) := by
    simp [keyCallData]
  have x := Abi.slice?_head key.x (key.y ++ (Abi.word 256 ++ [])) wide.1
  have y := Abi.slice?_field key.x key.y (Abi.word 256 ++ []) wide.1 wide.2
  have verifiers := @Abi.wordAt?_field (key.x ++ key.y) [] 64 256
    (by rw [List.length_append, wide.1, wide.2]) (by decide)
  rw [List.append_assoc] at verifiers
  rw [written]
  simp only [readKeyCall, arguments?_call, x, y, verifiers, Option.bind_eq_bind, Option.bind_some,
    Option.pure_def]

theorem readEnableModules_data (contract : Address) :
    readEnableModules (enableModulesData contract) = some [contract] := by
  have written : enableModulesData contract = selectorOf "enableModules(address[])" ++
      ([Abi.word 32, Abi.word 1, contract.word].flatten ++ []) := by
    simp [enableModulesData]
  have sized : ∀ word ∈ [Abi.word 32, Abi.word 1, contract.word], word.length = 32 := by simp
  have offset := @Abi.slice?_words _ [] (Abi.word 32) 0 sized rfl
  have count := @Abi.slice?_words _ [] (Abi.word 1) 1 sized rfl
  have only := @Abi.slice?_words _ [] contract.word 2 sized rfl
  rw [written]
  simp only [readEnableModules, arguments?_call, Option.bind_eq_bind, Option.bind_some]
  apply @Abi.arrayArg?_items _ _ _ _ 32
  · rw [Abi.wordAt?, offset, Option.map_some, Abi.beNat_word (by decide)]
  · rw [Abi.wordAt?, count, Option.map_some, Abi.beNat_word (by decide)]
    rfl
  · intro index item placed
    cases index with
    | zero =>
      cases placed
      exact addressAt?_word only
    | succ => cases placed

theorem readMultiSend_calls {calls : List PackedCall}
    (short : (PackedCall.packed calls).length < 2 ^ 256) :
    readMultiSend (CallData.multiSend calls) = some calls := by
  have payload := @Abi.bytesArg?_padded (Abi.word 32) (PackedCall.packed calls) [] 0
    (Abi.wordAt?_field [] _ rfl (by decide)) short
  rw [List.append_nil] at payload
  simp only [readMultiSend, CallData.multiSend, arguments?_call, payload, Option.bind_eq_bind,
    Option.bind_some]
  apply PackedCall.unpack_packed
  intro call member
  exact Nat.lt_trans (PackedCall.data_length_lt_packed member) short

theorem setupWords_sized (contracts : Contracts) (owners : List Address) :
    ∀ word ∈ setupWords contracts owners, word.length = 32 := by
  intro word member
  rcases List.mem_append.mp member with head | owned
  · simp only [List.mem_cons, List.not_mem_nil, or_false] at head
    rcases head with rfl | rfl | rfl | rfl | rfl | rfl | rfl | rfl <;> simp
  · rcases List.mem_cons.mp owned with rfl | owned
    · exact Abi.word_length _
    · obtain ⟨owner, _, rfl⟩ := List.mem_map.mp owned
      exact owner.word_length

theorem setupWords_length (contracts : Contracts) (owners : List Address) :
    (setupWords contracts owners).flatten.length = 288 + owners.length * 32 := by
  rw [List.length_flatten, List.map_congr_left (setupWords_sized contracts owners),
    List.map_const', List.sum_replicate_nat]
  simp only [setupWords, List.length_append, List.length_cons, List.length_nil, List.length_map]
  omega

theorem readSetup_data (contracts : Contracts) {owners : List Address} {calls : List PackedCall}
    (few : owners.length < 2 ^ 64) (short : (CallData.multiSend calls).length < 2 ^ 256) :
    readSetup (setupDataOf contracts owners calls) = some {
      owners
      threshold := 1
      target := contracts.multiSend
      data := CallData.multiSend calls
      fallbackHandler := contracts.module
      paymentToken := contracts.zero
      payment := 0
      paymentReceiver := contracts.zero } := by
  let arguments := (setupWords contracts owners).flatten ++ Abi.padded (CallData.multiSend calls)
  have placed : ∀ index word, (setupWords contracts owners)[index]? = some word →
      Bytes.slice? arguments (32 * index) 32 = some word := by
    intro index word found
    exact Abi.slice?_words (setupWords_sized contracts owners) found
  have number : ∀ index value, value < 2 ^ 256 →
      (setupWords contracts owners)[index]? = some (Abi.word value) →
      Abi.wordAt? arguments (32 * index) = some value := by
    intro index value fits found
    rw [Abi.wordAt?, placed index _ found, Option.map_some, Abi.beNat_word fits]
  have ownersRead : Abi.arrayArg? addressAt? arguments 0 = some owners := by
    apply @Abi.arrayArg?_items _ _ _ _ 256
    · exact number 0 256 (by decide) rfl
    · exact number 8 owners.length (by omega) rfl
    · intro index owner found
      apply addressAt?_word
      have start : 256 + 32 + 32 * index = 32 * (9 + index) := by omega
      rw [start]
      apply placed
      rw [Nat.add_comm]
      simp [setupWords, found]
  have dataRead : Abi.bytesArg? arguments 96 = some (CallData.multiSend calls) := by
    have offset := number 3 (288 + owners.length * 32) (by omega) rfl
    have read := @Abi.bytesArg?_padded (setupWords contracts owners).flatten
      (CallData.multiSend calls) [] 96
      (by rw [List.append_nil, setupWords_length]; exact offset) short
    rwa [List.append_nil] at read
  have threshold : Abi.wordAt? arguments 32 = some 1 := number 1 1 (by decide) rfl
  have target : addressAt? arguments 64 = some contracts.multiSend :=
    addressAt?_word (placed 2 _ rfl)
  have fallbackHandler : addressAt? arguments 128 = some contracts.module :=
    addressAt?_word (placed 4 _ rfl)
  have paymentToken : addressAt? arguments 160 = some contracts.zero :=
    addressAt?_word (placed 5 _ rfl)
  have payment : Abi.wordAt? arguments 192 = some 0 := number 6 0 (by decide) rfl
  have paymentReceiver : addressAt? arguments 224 = some contracts.zero :=
    addressAt?_word (placed 7 _ rfl)
  change readSetup (selectorOf setupSignature ++ arguments) = _
  simp only [readSetup, arguments?_call, ownersRead, dataRead, threshold, target, fallbackHandler,
    paymentToken, payment, paymentReceiver, Option.bind_eq_bind, Option.bind_some, Option.pure_def]

theorem assembleInitCode_eq {setupData saltNonce : List UInt8} {factory singleton : Address}
    (factoryRead : parseAddress safeProxyFactory = .ok factory)
    (singletonRead : parseAddress safeSingleton = .ok singleton)
    (wide : saltNonce.length = 32) (short : setupData.length < 2 ^ 128) :
    assembleInitCode setupData saltNonce = .ok (factory.bytes ++
      (selectorOf createProxySignature ++
        ([singleton.word, Abi.word 96, saltNonce].flatten ++ Abi.padded setupData))) := by
  simp only [assembleInitCode, functionSelector_eq, abiEncodeAddress_ok singletonRead,
    abiEncodeBytes32_wide wide, factoryRead]
  simp only [bind, Except.bind, pure, Except.pure, wordUsize, wordU128_eq short,
    @wordU128_eq 96 (by decide), Abi.padded, padToWord, List.flatten_cons, List.flatten_nil,
    List.append_assoc, List.append_nil]

theorem readCreateProxy_code {setupData saltNonce : List UInt8} {factory singleton : Address}
    (wide : saltNonce.length = 32) (short : setupData.length < 2 ^ 128) :
    readCreateProxy (factory.bytes ++ (selectorOf createProxySignature ++
      ([singleton.word, Abi.word 96, saltNonce].flatten ++ Abi.padded setupData))) =
        some ⟨factory, singleton, setupData, saltNonce⟩ := by
  let words := [singleton.word, Abi.word 96, saltNonce]
  let arguments := words.flatten ++ Abi.padded setupData
  have sized : ∀ word ∈ words, word.length = 32 := by simp [words, wide]
  have placed : ∀ index word, words[index]? = some word →
      Bytes.slice? arguments (32 * index) 32 = some word := by
    intro index word found
    exact Abi.slice?_words sized found
  have singletonRead : addressAt? arguments 0 = some singleton := addressAt?_word (placed 0 _ rfl)
  have nonceRead : Bytes.slice? arguments 64 32 = some saltNonce := placed 2 _ rfl
  have offset : Abi.wordAt? arguments 32 = some 96 := by
    rw [Abi.wordAt?, placed 1 _ rfl, Option.map_some, Abi.beNat_word (by decide)]
  have setupRead : Abi.bytesArg? arguments 32 = some setupData := by
    have front : words.flatten.length = 96 := by simp [words, wide]
    have read := @Abi.bytesArg?_padded words.flatten setupData [] 32
      (by rw [List.append_nil, front]; exact offset) (Nat.lt_trans short (by decide))
    rwa [List.append_nil] at read
  have factoryRead := Abi.slice?_head factory.bytes
    (selectorOf createProxySignature ++ arguments) factory.length_eq
  have behind : (factory.bytes ++ (selectorOf createProxySignature ++ arguments)).drop 20 =
      selectorOf createProxySignature ++ arguments := List.drop_left' factory.length_eq
  change readCreateProxy (factory.bytes ++ (selectorOf createProxySignature ++ arguments)) = _
  simp only [readCreateProxy, factoryRead, behind, arguments?_call, singletonRead, nonceRead,
    setupRead, Option.bind_eq_bind, Option.bind_some, Option.pure_def]
  rw [dif_pos factory.length_eq]

/-- The calldata deploys the wallet of a first key and its later keys: it reads as the
`setup` of an account of threshold one whose owners are the shared signer and each later
key's proxy, with a delegatecall to MultiSend that enables the module, gives the shared
signer the first key, and deploys a signer for each later one. -/
def Installs [RadixErrors] (first : P256PublicKey) (later : List P256PublicKey)
    (setupData : List UInt8) : Prop :=
  ∃ (contracts : Contracts) (owners : List Address) (batch : List UInt8), contracts.Named ∧
    List.Forall₂ Derives later owners ∧
    readSetup setupData = some {
      owners := contracts.signer :: owners
      threshold := 1
      target := contracts.multiSend
      data := batch
      fallbackHandler := contracts.module
      paymentToken := contracts.zero
      payment := 0
      paymentReceiver := contracts.zero } ∧
    readMultiSend batch = some (setupCalls contracts first later) ∧
    readEnableModules (enableCall contracts).data = some [contracts.module] ∧
    readKeyCall "configure((uint256,uint256,uint176))" (configureCall contracts first).data =
      some (first, 256) ∧
    ∀ key ∈ later, readKeyCall "createSigner(uint256,uint256,uint176)"
      (createSignerCall contracts key).data = some (key, 256)

/-- The init code deploys the wallet: the factory is called with its setup calldata and its
salt nonce, and the CREATE2 address behind them is the wallet's. -/
def Deploys (info : SafeAddressInfo) (initCode : List UInt8) : Prop :=
  ∃ factory singleton proxyCode, parseAddress safeProxyFactory = .ok factory ∧
    parseAddress safeSingleton = .ok singleton ∧ fromHex proxyCreationCode = .ok proxyCode ∧
    readCreateProxy initCode = some ⟨factory, singleton, info.setupData, info.saltNonce⟩ ∧
    info.address = toChecksum (factory.create2
      (Keccak.keccak256 (Keccak.keccak256 info.setupData ++ info.saltNonce))
      (Keccak.keccak256 (proxyCode ++ singleton.word)))

theorem encodeSetupData_installs [RadixErrors] {first : P256PublicKey} {later : List P256PublicKey}
    (firstWide : Wide first) (wide : ∀ key ∈ later, Wide key) (few : later.length ≤ maxMultiKeys) :
    ∃ setupData, encodeSetupData first.x first.y later = .ok setupData ∧
      Installs first later setupData ∧ setupData.length < 2 ^ 128 := by
  obtain ⟨contracts, named⟩ := exists_contracts
  obtain ⟨owners, derived, written⟩ := encodeSetupData_eq named firstWide wide few
  have packed := setupCalls_length contracts firstWide wide
  have sent := multiSend_length_le (setupCalls contracts first later)
  have counted := derived.length_eq
  have small : later.length ≤ 7 := few
  refine ⟨_, written, ⟨contracts, owners, CallData.multiSend (setupCalls contracts first later),
    named, derived, ?_, ?_, ?_, ?_, ?_⟩, ?_⟩
  · apply readSetup_data
    · rw [List.length_cons]
      omega
    · omega
  · apply readMultiSend_calls
    omega
  · exact readEnableModules_data contracts.module
  · exact readKeyCall_data _ firstWide
  · intro key member
    exact readKeyCall_data _ (wide key member)
  · have padding : Bytes.wordPadding (CallData.multiSend (setupCalls contracts first later)).length < 32 :=
      Nat.mod_lt _ (by decide)
    rw [setupDataOf, List.length_append, List.length_append, setupWords_length, selectorOf_length,
      Abi.padded, List.length_append, List.length_append, Abi.word_length, List.length_replicate,
      List.length_cons]
    omega

theorem foundingWallet_eq [RadixErrors] {hexes : List String} {keys : List P256PublicKey}
    (some : keys ≠ []) (parsed : hexes.mapM parsePublicKey = .ok keys) :
    foundingWallet hexes = computeSafeAddressMulti keys := by
  cases hexes with
  | nil =>
    cases parsed
    contradiction
  | cons _ more =>
    cases more with
    | nil =>
      rw [List.mapM_cons] at parsed
      obtain ⟨key, read, tail⟩ := Fallible.bind_ok.mp parsed
      cases tail
      rw [foundingWallet, read]
      exact (computes_single key).symm
    | cons =>
      simp only [foundingWallet, parsed]
      rfl

/-- Every accepted key list has a setup calldata that deploys its wallet, with the later
keys in their canonical order, and init code that carries that calldata to the factory
with the salt behind the wallet's address. -/
theorem setup_installs [RadixErrors] {first : P256PublicKey} {rest : List P256PublicKey}
    {info : SafeAddressInfo} (computed : computeSafeAddressMulti (first :: rest) = .ok info) :
    Installs first (sortKeys rest) info.setupData ∧
      ∀ hexes, hexes.mapM parsePublicKey = .ok (first :: rest) →
        ∃ initCode, buildInitCodeForKeys hexes = .ok initCode ∧ Deploys info initCode := by
  obtain ⟨owners, made⟩ := computeSafeAddressMulti_ok.mp computed
  have wide : ∀ key ∈ first :: sortKeys rest, Wide key := wide_sorted owners.wide
  have few : (sortKeys rest).length ≤ maxMultiKeys := by
    have bound := owners.few
    rw [List.length_cons] at bound
    rw [(sortKeys_perm rest).length_eq]
    exact Nat.le_of_succ_le bound
  obtain ⟨setupData, encoded, installs, short⟩ := encodeSetupData_installs
    (wide first List.mem_cons_self) (fun key member => wide key (List.mem_cons_of_mem _ member)) few
  obtain ⟨words, mapped, made⟩ := Fallible.bind_ok.mp made
  obtain ⟨data, written, assembled⟩ := Fallible.bind_ok.mp made
  cases encoded.symm.trans written
  obtain ⟨proxyCode, codeRead⟩ := proxyCode_hex
  obtain ⟨singleton, singletonRead⟩ := parse_constants.2.1
  have expected := assembleSafeAddress_eq codeRead singletonRead (Keccak.keccak256 words.flatten)
    setupData
  cases expected.symm.trans assembled
  refine ⟨installs, ?_⟩
  intro hexes parsed
  have founded := foundingWallet_eq (List.cons_ne_nil first rest) parsed
  have carried := assembleInitCode_eq parseAddress_factory singletonRead
    (Keccak.keccak256_length words.flatten) short
  have carries : buildInitCodeForKeys hexes = .ok (proxyFactory.bytes ++
      (selectorOf createProxySignature ++ ([singleton.word, Abi.word 96,
        Keccak.keccak256 words.flatten].flatten ++ Abi.padded setupData))) :=
    Fallible.bind_ok.mpr ⟨_, founded.trans computed, carried⟩
  refine ⟨_, carries, proxyFactory, singleton, proxyCode, parseAddress_factory, singletonRead,
    codeRead, ?_, ?_⟩
  · exact readCreateProxy_code (Keccak.keccak256_length _) short
  · rfl

/-- A public key as it is written: tagged, and in hex. -/
def writtenKey (key : P256PublicKey) : String :=
  Utf8.ofAscii (pointTag ++ Hex.spell (key.x ++ key.y))

theorem parsePublicKey_writtenKey {key : P256PublicKey} (wide : Wide key) :
    parsePublicKey (writtenKey key) = .ok key := by
  have spelled := spelled_spell (key.x ++ key.y)
  have ascii : Utf8.IsAscii (pointTag ++ Hex.spell (key.x ++ key.y)) := by
    intro byte member
    rcases List.mem_append.mp member with tag | digit
    · simp only [pointTag, List.mem_cons, List.not_mem_nil, or_false] at tag
      rcases tag with rfl | rfl <;> decide
    · exact (spelled.visible byte digit).2
  have tagged : Utf8.stripPrefix pointTag (Utf8.stripPrefix hexMark
      (pointTag ++ Hex.spell (key.x ++ key.y))) = Hex.spell (key.x ++ key.y) := by
    simp [Utf8.stripPrefix, pointTag, hexMark, List.isPrefixOf]
  have sized : (Hex.spell (key.x ++ key.y)).length = 128 := by
    rw [spelled.length, List.length_append, wide.1, wide.2]
  have decoded : fromHexBytes (Hex.spell (key.x ++ key.y)) = .ok (key.x ++ key.y) := by
    rw [fromHexBytes_iff, stripPrefix_of_not_mark spelled.not_mark]
    exact spelled
  unfold parsePublicKey
  rw [writtenKey, Utf8.bytes_ofAscii ascii]
  simp only [tagged, sized, decoded]
  simp [List.take_left' wide.1, List.drop_left' wide.1]

theorem plainKeys_computed [RadixErrors] :
    ∃ info, computeSafeAddressMulti [plainKey 1 1, plainKey 2 2] = .ok info :=
  (computes_iff _).mpr ⟨by decide, by decide, by decide, by decide⟩

theorem plainKeys_installed :
    ∃ info, @computeSafeAddressMulti silentRadix [plainKey 1 1, plainKey 2 2] = .ok info ∧
      @Installs silentRadix (plainKey 1 1) (sortKeys [plainKey 2 2]) info.setupData ∧
      ∃ initCode, @buildInitCodeForKeys silentRadix
        [writtenKey (plainKey 1 1), writtenKey (plainKey 2 2)] = .ok initCode ∧
          Deploys info initCode := by
  obtain ⟨info, computed⟩ := @plainKeys_computed silentRadix
  obtain ⟨installs, deploys⟩ := @setup_installs silentRadix _ _ info computed
  refine ⟨info, computed, installs, deploys _ ?_⟩
  have first : parsePublicKey (writtenKey (plainKey 1 1)) = .ok (plainKey 1 1) :=
    parsePublicKey_writtenKey ⟨by decide, by decide⟩
  have second : parsePublicKey (writtenKey (plainKey 2 2)) = .ok (plainKey 2 2) :=
    parsePublicKey_writtenKey ⟨by decide, by decide⟩
  simp only [List.mapM_cons, List.mapM_nil, first, second]
  rfl

end Safe

end VelaWallet

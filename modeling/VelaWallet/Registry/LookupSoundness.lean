import VelaWallet.Registry.Lookup

/-!
# Remembered verdicts are earned

What each verdict of a lookup rests on, over any transcript, and that a shell which answers what
it is asked brings the lookup to its end.
-/

namespace VelaWallet.RegistryLookup

open Utf8 (toLowercase trim)

variable [LookupRuntime] {address publicKey : String} {answers : List LookupAnswer}

variable {ids : List Nat} {asked : List Source} {found : Option WalletName} {source : Source}
  {name : String}

/-- The metadata a source's answer holds. -/
def Source.metadataIn (source : Source) (answer : LookupAnswer) : Option RegistryMetadata :=
  match source with
  | .index =>
    if answer.outcome = .ok then do decodeHex (← LookupRuntime.unitResponse (← answer.body))
    else none
  | .chain _ => do
      let bytes ← (returned answer).filter (! ·.isEmpty)
      let values ← LookupRuntime.decodeParams ("(" ++ unitTuple ++ ")") bytes
      decodeHex (toHex (← unitFrom (← values.head?)) false)

/-- The metadata names an address: it is about it, and gives it a name that is not blank. -/
structure Names (metadata : RegistryMetadata) (address name : String) : Prop where
  about : toLowercase metadata.address = address
  first : (metadata.keyNames.head?).map trim = some name
  some_letter : name ≠ ""

theorem nameInMetadata_some {metadataHex : String}
    (read : nameInMetadata metadataHex address = some name) :
    ∃ metadata, decodeHex metadataHex = some metadata ∧ Names metadata address name := by
  simp only [nameInMetadata, Option.bind_eq_bind, Option.bind_eq_some_iff] at read
  obtain ⟨metadata, decoded, read⟩ := read
  refine ⟨metadata, decoded, ?_⟩
  split at read
  · cases read
  · next about =>
      obtain ⟨first, head, kept⟩ := Option.bind_eq_some_iff.mp read
      split at kept
      · next some_letter =>
          cases kept
          exact ⟨Decidable.not_not.mp about, by rw [head]; rfl, some_letter⟩
      · cases kept

theorem nameInMetadata_of_names {metadataHex : String} {metadata : RegistryMetadata}
    (decoded : decodeHex metadataHex = some metadata) (names : Names metadata address name) :
    nameInMetadata metadataHex address = some name := by
  obtain ⟨about, first, some_letter⟩ := names
  obtain ⟨raw, head, rfl⟩ := Option.map_eq_some_iff.mp first
  simp [nameInMetadata, decoded, about, head, some_letter]

theorem nameIn_named {unit : LookupAnswer} (named : source.nameIn unit address = .named name) :
    ∃ metadata, source.metadataIn unit = some metadata ∧ Names metadata address name := by
  have ofName : ∀ {found : Option String}, UnitSays.ofName found = .named name →
      found = some name := by
    intro found same
    cases found with
    | none => cases same
    | some =>
      cases same
      rfl
  cases source with
  | index =>
    simp only [Source.nameIn] at named
    split at named
    · cases named
    · cases named
    · next ok =>
        obtain ⟨body, held, read⟩ := Option.bind_eq_some_iff.mp (ofName named)
        simp only [nameInUnit, Option.bind_eq_bind, Option.bind_eq_some_iff] at read
        obtain ⟨blob, response, read⟩ := read
        obtain ⟨metadata, decoded, names⟩ := nameInMetadata_some read
        exact ⟨metadata, by simp [Source.metadataIn, ok, held, response, decoded], names⟩
  | chain =>
    simp only [Source.nameIn] at named
    split at named
    · cases named
    · next held =>
        split at named
        · cases named
        · next unit =>
            obtain ⟨metadata, decoded, names⟩ := nameInMetadata_some (ofName named)
            refine ⟨metadata, ?_, names⟩
            simp only [Option.bind_eq_bind, Option.bind_eq_some_iff] at unit
            obtain ⟨values, read, first, head, blob_read⟩ := unit
            simp [Source.metadataIn, held, read, head, blob_read, decoded]

/-- A unit's answer that is a readable one, or of the index any but silence, and names nobody. -/
structure Unnamed (source : Source) (unit : LookupAnswer) (address : String) : Prop where
  answered : unit.outcome ≠ .failed
  readable : ∀ chainId, source = .chain chainId → ∃ bytes values blob,
    returned unit = some bytes ∧ bytes ≠ [] ∧
      LookupRuntime.decodeParams ("(" ++ unitTuple ++ ")") bytes = some values ∧
      values.head?.bind unitFrom = some blob
  unnamed : ∀ metadata, source.metadataIn unit = some metadata →
    ∀ name, ¬ Names metadata address name

theorem nameIn_unnamed {unit : LookupAnswer}
    (said : source.nameIn unit address = .notThisWallet) : Unnamed source unit address := by
  have ofName : ∀ {found : Option String}, UnitSays.ofName found = .notThisWallet →
      found = none := by
    intro found same
    cases found with
    | none => rfl
    | some => cases same
  cases source with
  | index =>
    simp only [Source.nameIn] at said
    split at said
    · cases said
    · next notFound =>
        refine ⟨by rw [notFound]; rintro ⟨⟩, by rintro _ ⟨⟩, ?_⟩
        intro metadata read
        simp [Source.metadataIn, notFound] at read
    · next ok =>
        refine ⟨by rw [ok]; rintro ⟨⟩, by rintro _ ⟨⟩, ?_⟩
        intro metadata read name names
        simp only [Source.metadataIn, ok, if_true, Option.bind_eq_bind,
          Option.bind_eq_some_iff] at read
        obtain ⟨body, held, blob, response, decoded⟩ := read
        have unread := ofName said
        simp [held, nameInUnit, response, nameInMetadata_of_names decoded names] at unread
  | chain =>
    simp only [Source.nameIn] at said
    split at said
    · cases said
    · next bytes held =>
        split at said
        · cases said
        · next blob unit_read =>
            obtain ⟨got, some_byte⟩ := Option.filter_eq_some_iff.mp held
            simp only [Option.bind_eq_bind, Option.bind_eq_some_iff] at unit_read
            obtain ⟨values, read, first, head, blob_read⟩ := unit_read
            constructor
            case answered =>
              intro failed
              simp [returned, failed] at got
            case readable =>
              intro _ _
              refine ⟨bytes, values, blob, got, ?_, read, by simp [head, blob_read]⟩
              simpa using some_byte
            case unnamed =>
              intro metadata decoded name names
              simp only [Source.metadataIn, held, read, head, blob_read, Option.bind_eq_bind,
                Option.bind_some] at decoded
              rw [nameInMetadata_of_names decoded names] at said
              cases said

/-- A chain's readable answer that no wallet of ours is configured there: too short for a key,
or with a coordinate of zero. -/
def NotConfigured (answer : LookupAnswer) : Prop :=
  answer.outcome = .ok ∧ ∃ body, answer.body = some body ∧
    (unmarked body).all TrustedSigner.isAsciiHexdigit = true ∧
    ((unmarked body).length < 128 ∨ ((unmarked body).take 64).all (· == '0') = true ∨
      (((unmarked body).drop 64).take 64).all (· == '0') = true)

theorem readConfiguration_notHere {answer : LookupAnswer}
    (said : readConfiguration answer = .notHere) : NotConfigured answer := by
  unfold readConfiguration at said
  split at said
  · cases said
  · next ok =>
      split at said
      · cases said
      · next body held =>
          dsimp only at said
          split at said
          · cases said
          · next hex =>
              refine ⟨Decidable.not_not.mp ok, body, held, by simpa using hex, ?_⟩
              split at said
              · next short => exact .inl short
              · split at said
                · next zero => exact .inr (by simpa using zero)
                · cases said

omit [LookupRuntime] in
theorem configurationRequest_id (address : String) (chainId : Nat) :
    (configurationRequest address chainId).id = cfgId chainId := rfl

/-- The public key a chain's configuration holds. -/
def KeyOnChain (answers : List LookupAnswer) (publicKey : String) : Prop :=
  ∃ chainId ∈ homeChain :: otherChains, ∃ configured,
    answer answers (cfgId chainId) = some configured ∧
      readConfiguration configured = .key publicKey

theorem foundingKey_key (found : foundingKey address answers = .key publicKey) :
    KeyOnChain answers publicKey := by
  unfold foundingKey at found
  split at found
  · cases found
  · next home asked =>
      split at found
      · next read =>
          cases found
          exact ⟨homeChain, List.mem_cons_self, home, asked, read⟩
      · dsimp only at found
        split at found
        · cases found
        · split at found
          · next key first =>
              cases found
              obtain ⟨said, member, key⟩ := List.exists_of_findSome?_eq_some first
              obtain ⟨chainId, among, rfl⟩ := List.mem_map.mp member
              refine ⟨chainId, List.mem_cons_of_mem _ among, ?_⟩
              cases answered : answer answers (cfgId chainId) with
              | none =>
                rw [answered] at key
                cases key
              | some configured =>
                rw [answered] at key
                refine ⟨configured, rfl, ?_⟩
                simp only [Option.map_some, Option.getD_some] at key
                cases read : readConfiguration configured <;> rw [read] at key <;> cases key
                rfl
          · split at found <;> cases found

theorem foundingKey_nobody (found : foundingKey address answers = .nobody) :
    ∀ chainId ∈ homeChain :: otherChains, ∃ configured,
      answer answers (cfgId chainId) = some configured ∧ NotConfigured configured := by
  unfold foundingKey at found
  split at found
  · cases found
  · next home asked =>
      split at found
      · cases found
      · next homeSaid =>
          dsimp only at found
          split at found
          · cases found
          · split at found
            · cases found
            · next no_key =>
                split at found
                · next known =>
                    obtain ⟨home_known, others_known⟩ := known
                    have of_known : ∀ {configured : LookupAnswer},
                        readConfiguration configured ≠ .unknown →
                        (∀ key, readConfiguration configured ≠ .key key) →
                        NotConfigured configured := by
                      intro configured known other
                      apply readConfiguration_notHere
                      cases read : readConfiguration configured with
                      | key publicKey => exact absurd read (other publicKey)
                      | notHere => rfl
                      | unknown => exact absurd read known
                    intro chainId member
                    rcases List.mem_cons.mp member with rfl | among
                    · exact ⟨home, asked, of_known home_known homeSaid⟩
                    · have said := List.findSome?_eq_none_iff.mp no_key _
                        (List.mem_map_of_mem among)
                      have known : ((answer answers (cfgId chainId)).map readConfiguration).getD
                          .unknown ≠ .unknown := by
                        intro same
                        exact others_known (List.mem_map.mpr ⟨chainId, among, same⟩)
                      cases answered : answer answers (cfgId chainId) with
                      | none =>
                        rw [answered] at known
                        exact absurd rfl known
                      | some configured =>
                        rw [answered] at said known
                        refine ⟨configured, rfl, of_known known ?_⟩
                        intro key read
                        simp only [Option.map_some, Option.getD_some, read] at said
                        cases said
                · cases found

/-- The ids a lookup asks for whatever it is told. -/
def firstIds : List String :=
  (homeChain :: otherChains).map cfgId ++ sources.map (·.id "key")

/-- The ids of the units a source listed and is asked about. -/
def Source.unitKeys (source : Source) (profile : LookupAnswer) : List String :=
  (((source.unitIds profile).getD []).take maxUnits).map source.unitKey

/-- An id without an answer, of a chain, a source or a unit that its source listed. -/
structure Awaited (answers : List LookupAnswer) (id : String) : Prop where
  unanswered : answer answers id = none
  known : id ∈ firstIds ∨ ∃ source ∈ sources, ∃ profile,
    answer answers (source.id "key") = some profile ∧ id ∈ source.unitKeys profile

/-- Something is asked for, and nothing that is answered. -/
structure Asks (answers : List LookupAnswer) (requests : List LookupRequest) : Prop where
  some_request : requests ≠ []
  awaited : ∀ request ∈ requests, Awaited answers request.id

theorem Asks.singleton {request : LookupRequest} (awaited : Awaited answers request.id) :
    Asks answers [request] := by
  constructor
  case some_request => exact List.cons_ne_nil _ _
  case awaited =>
    intro other member
    rw [List.mem_singleton.mp member]
    exact awaited

omit [LookupRuntime] in
theorem cfgId_mem_firstIds {chainId : Nat} (among : chainId ∈ homeChain :: otherChains) :
    cfgId chainId ∈ firstIds := by
  apply List.mem_append_left
  exact List.mem_map_of_mem among

theorem foundingKey_ask {requests : List LookupRequest}
    (asks : foundingKey address answers = .ask requests) : Asks answers requests := by
  unfold foundingKey at asks
  split at asks
  · next unasked =>
      cases asks
      exact .singleton ⟨unasked, .inl (cfgId_mem_firstIds List.mem_cons_self)⟩
  · split at asks
    · cases asks
    · dsimp only at asks
      split at asks
      · next missing =>
          cases asks
          constructor
          case some_request => simpa using missing
          case awaited =>
            intro request member
            obtain ⟨chainId, among, rfl⟩ := List.mem_map.mp member
            obtain ⟨other, unasked⟩ := List.mem_filter.mp among
            rw [configurationRequest_id]
            exact ⟨by simpa using unasked,
              .inl (cfgId_mem_firstIds (List.mem_cons_of_mem _ other))⟩
      · split at asks
        · cases asks
        · split at asks <;> cases asks

section Walk

variable {source : Source}

theorem unitRequest_id (source : Source) (id : String) (unitId : Nat) :
    (source.unitRequest id unitId).id = id := by
  cases source <;> rfl

theorem keyRequest_id (source : Source) (id publicKey : String) :
    (source.keyRequest id publicKey).id = id := by
  cases source <;> rfl

theorem walkUnits_named (walked : walkUnits source address answers ids = .named name) :
    ∃ unitId ∈ ids, ∃ unit, answer answers (source.unitKey unitId) = some unit ∧
      source.nameIn unit address = .named name := by
  induction ids with
  | nil => cases walked
  | cons unitId _ ih =>
    rw [walkUnits] at walked
    split at walked
    · cases walked
    · next unit answered =>
        split at walked
        · cases walked
        · obtain ⟨other, member, rest⟩ := ih walked
          exact ⟨other, List.mem_cons_of_mem _ member, rest⟩
        · next named =>
            cases walked
            exact ⟨unitId, List.mem_cons_self, unit, answered, named⟩

theorem walkUnits_nobody (walked : walkUnits source address answers ids = .nobody) :
    ∀ unitId ∈ ids, ∃ unit, answer answers (source.unitKey unitId) = some unit ∧
      source.nameIn unit address = .notThisWallet := by
  induction ids with
  | nil => exact nofun
  | cons _ _ ih =>
    rw [walkUnits] at walked
    split at walked
    · cases walked
    · next unit answered =>
        split at walked
        · cases walked
        · next other =>
            intro id member
            rcases List.mem_cons.mp member with rfl | member
            · exact ⟨unit, answered, other⟩
            · exact ih walked id member
        · cases walked

theorem walkUnits_ask {request : LookupRequest}
    (walked : walkUnits source address answers ids = .ask request) :
    answer answers request.id = none ∧ request.id ∈ ids.map source.unitKey := by
  induction ids with
  | nil => cases walked
  | cons _ _ ih =>
    rw [walkUnits] at walked
    split at walked
    · next unanswered =>
        cases walked
        rw [unitRequest_id]
        exact ⟨unanswered, List.mem_cons_self⟩
    · split at walked
      · cases walked
      · obtain ⟨unanswered, member⟩ := ih walked
        exact ⟨unanswered, List.mem_cons_of_mem _ member⟩
      · cases walked

theorem walkSources_forever
    (walked : walkSources address publicKey answers asked = .done found .forever) :
    ∃ name, found = some ⟨name, publicKey⟩ ∧ ∃ source ∈ asked, ∃ profile listed,
      answer answers (source.id "key") = some profile ∧ source.unitIds profile = some listed ∧
        ∃ unitId ∈ listed, ∃ unit, answer answers (source.unitKey unitId) = some unit ∧
          source.nameIn unit address = .named name := by
  induction asked with
  | nil => cases walked
  | cons source _ ih =>
    rw [walkSources] at walked
    split at walked
    · cases walked
    · next profile answered =>
        split at walked
        · obtain ⟨name, same, other, member, rest⟩ := ih walked
          exact ⟨name, same, other, List.mem_cons_of_mem _ member, rest⟩
        · next listed read =>
            split at walked
            · cases walked
            · obtain ⟨name, same, other, member, rest⟩ := ih walked
              exact ⟨name, same, other, List.mem_cons_of_mem _ member, rest⟩
            · next name named =>
                cases walked
                obtain ⟨unitId, member, rest⟩ := walkUnits_named named
                exact ⟨name, rfl, source, List.mem_cons_self, profile, listed, answered, read,
                  unitId, List.mem_of_mem_take member, rest⟩
            · obtain ⟨_, kept⟩ := LookupStep.done.inj walked
              split at kept <;> cases kept

/-- Nobody is named where a source other than the backup listed the key's units and answered
for each of them that is asked about. -/
theorem walkSources_briefly
    (walked : walkSources address publicKey answers asked = .done found .briefly) :
    found = none ∧ ∃ source ∈ asked, source ≠ .chain backupChain ∧ ∃ profile listed,
      answer answers (source.id "key") = some profile ∧ source.unitIds profile = some listed ∧
        ∀ unitId ∈ listed.take maxUnits, ∃ unit,
          answer answers (source.unitKey unitId) = some unit ∧
            source.nameIn unit address = .notThisWallet := by
  induction asked with
  | nil => cases walked
  | cons source _ ih =>
    rw [walkSources] at walked
    split at walked
    · cases walked
    · next profile answered =>
        split at walked
        · obtain ⟨same, other, member, rest⟩ := ih walked
          exact ⟨same, other, List.mem_cons_of_mem _ member, rest⟩
        · next listed read =>
            split at walked
            · cases walked
            · obtain ⟨same, other, member, rest⟩ := ih walked
              exact ⟨same, other, List.mem_cons_of_mem _ member, rest⟩
            · cases walked
            · next nobody =>
                obtain ⟨rfl, brief⟩ := LookupStep.done.inj walked
                refine ⟨rfl, source, List.mem_cons_self, ?_, profile, listed, answered, read,
                  walkUnits_nobody nobody⟩
                intro backup
                rw [if_pos backup] at brief
                cases brief

theorem walkSources_ask {requests : List LookupRequest} (among : ∀ source ∈ asked, source ∈ sources)
    (walked : walkSources address publicKey answers asked = .ask requests) :
    Asks answers requests := by
  induction asked with
  | nil => cases walked
  | cons source _ ih =>
    have others := ih fun other member => among other (List.mem_cons_of_mem _ member)
    have here := among source List.mem_cons_self
    rw [walkSources] at walked
    split at walked
    · next unanswered =>
        cases walked
        apply Asks.singleton
        rw [keyRequest_id]
        exact ⟨unanswered, .inl (List.mem_append_right _ (List.mem_map_of_mem here))⟩
    · next profile answered =>
        split at walked
        · exact others walked
        · next read =>
            split at walked
            · next asks =>
                cases walked
                obtain ⟨unanswered, member⟩ := walkUnits_ask asks
                apply Asks.singleton
                refine ⟨unanswered, .inr ⟨source, here, profile, answered, ?_⟩⟩
                simpa [Source.unitKeys, read] using member
            · exact others walked
            · cases walked
            · cases walked

end Walk

/-- The answers of a transcript stay the ones that count. -/
def Extends (earlier later : List LookupAnswer) : Prop :=
  ∀ id given, answer earlier id = some given → answer later id = some given

omit [LookupRuntime] in
theorem Extends.append (given : List LookupAnswer) : Extends answers (answers ++ given) := by
  intro id first found
  simp only [answer, List.find?_append] at found ⊢
  rw [found]
  rfl

/-- How many of some ids have no answer. -/
def unanswered (answers : List LookupAnswer) (ids : List String) : Nat :=
  ids.countP fun id => (answer answers id).isNone

section Extension

variable {later : List LookupAnswer} {id : String}

omit [LookupRuntime] in
theorem Extends.isNone (kept : Extends answers later) (missing : (answer later id).isNone = true) :
    (answer answers id).isNone = true := by
  cases found : answer answers id with
  | none => rfl
  | some given =>
    rw [kept id given found] at missing
    cases missing

omit [LookupRuntime] in
theorem unanswered_le (kept : Extends answers later) (ids : List String) :
    unanswered later ids ≤ unanswered answers ids := by
  apply List.countP_mono_left
  intro id _
  exact kept.isNone

omit [LookupRuntime] in
theorem unanswered_lt {ids : List String} (kept : Extends answers later) (member : id ∈ ids)
    (missing : answer answers id = none) (given : (answer later id).isSome = true) :
    unanswered later ids < unanswered answers ids := by
  induction ids with
  | nil => cases member
  | cons head ids ih =>
    have others := unanswered_le kept ids
    rcases List.mem_cons.mp member with rfl | member
    · have answered : (answer later id).isNone = false := by simpa using given
      simp only [unanswered] at others ⊢
      rw [List.countP_cons_of_neg (by simp [answered]),
        List.countP_cons_of_pos (by simp [missing])]
      exact Nat.lt_succ_of_le others
    · have fewer := ih member
      simp only [unanswered] at fewer ⊢
      rw [List.countP_cons, List.countP_cons]
      have head_kept : (answer later head).isNone = true →
          (answer answers head).isNone = true := kept.isNone
      split
      · next still =>
          rw [if_pos (head_kept still)]
          exact Nat.add_lt_add_right fewer 1
      · exact Nat.lt_of_lt_of_le fewer (Nat.le_add_right _ _)

/-- How many units a source may still be asked about. -/
def Source.remaining (source : Source) (answers : List LookupAnswer) : Nat :=
  match answer answers (source.id "key") with
  | none => maxUnits
  | some profile => unanswered answers (source.unitKeys profile)

theorem Source.remaining_le (source : Source) (kept : Extends answers later) :
    source.remaining later ≤ source.remaining answers := by
  unfold Source.remaining
  cases asked : answer answers (source.id "key") with
  | some =>
    rw [kept _ _ asked]
    exact unanswered_le kept _
  | none =>
    cases answer later (source.id "key") with
    | none => exact Nat.le_refl _
    | some profile =>
      calc unanswered later (source.unitKeys profile)
          ≤ (source.unitKeys profile).length := List.countP_le_length
        _ ≤ maxUnits := by simp [Source.unitKeys]

theorem Source.remaining_lt {profile : LookupAnswer}
    (kept : Extends answers later) (asked : answer answers (source.id "key") = some profile)
    (member : id ∈ source.unitKeys profile) (missing : answer answers id = none)
    (given : (answer later id).isSome = true) :
    source.remaining later < source.remaining answers := by
  unfold Source.remaining
  rw [asked, kept _ _ asked]
  exact unanswered_lt kept member missing given

/-- How many answers a lookup may still wait for. -/
def remaining (answers : List LookupAnswer) : Nat :=
  unanswered answers firstIds + (sources.map (·.remaining answers)).sum

theorem remaining_lt (kept : Extends answers later) (awaited : Awaited answers id)
    (given : (answer later id).isSome = true) : remaining later < remaining answers := by
  obtain ⟨missing, known⟩ := awaited
  have index := Source.index.remaining_le kept
  have home := (Source.chain homeChain).remaining_le kept
  have backup := (Source.chain backupChain).remaining_le kept
  simp only [remaining, sources, List.map_cons, List.map_nil, List.sum_cons, List.sum_nil]
  rcases known with first | ⟨source, among, profile, asked, member⟩
  · have fewer := unanswered_lt kept first missing given
    omega
  · have firsts := unanswered_le kept firstIds
    have fewer := Source.remaining_lt kept asked member missing given
    simp only [sources, List.mem_cons, List.not_mem_nil, or_false] at among
    rcases among with rfl | rfl | rfl <;> omega

end Extension

/-- A shell that answers, among others, all that it is asked. -/
def HonestShell (address : String) (transcript : Nat → List LookupAnswer) : Prop :=
  ∀ n, ∃ given, transcript (n + 1) = transcript n ++ given ∧
    ∀ requests, step address (transcript n) = .ask requests →
      ∀ request ∈ requests, ∃ reply ∈ given, reply.id = request.id


theorem step_cases (address : String) (answers : List LookupAnswer) :
    (∃ requests, step address answers = .ask requests ∧ Asks answers requests) ∨
      ∃ found remember, step address answers = .done found remember := by
  cases result : step address answers with
  | done found remember => exact .inr ⟨found, remember, rfl⟩
  | ask requests =>
    refine .inl ⟨requests, rfl, ?_⟩
    unfold step at result
    split at result
    · cases result
    · dsimp only at result
      split at result
      · next asks =>
          cases result
          exact foundingKey_ask asks
      · cases result
      · cases result
      · exact walkSources_ask (fun _ member => member) result

theorem ends_of_honest {transcript : Nat → List LookupAnswer}
    (honest : HonestShell address transcript) :
    ∃ n ≤ remaining (transcript 0), ∃ found remember,
      step address (transcript n) = .done found remember := by
  induction measure : remaining (transcript 0) using Nat.strong_induction_on
    generalizing transcript with
  | _ _ ih =>
    rcases step_cases address (transcript 0) with
      ⟨requests, asks, some_request, awaited⟩ | ends
    · obtain ⟨given, next, replies⟩ := honest 0
      obtain ⟨request, member⟩ := List.exists_mem_of_ne_nil _ some_request
      obtain ⟨reply, among, same⟩ := replies requests asks request member
      have answered : (answer (transcript 1) request.id).isSome = true := by
        rw [next, answer, List.find?_isSome]
        exact ⟨reply, List.mem_append_right _ among, by simp [same]⟩
      have kept : Extends (transcript 0) (transcript 1) := by
        rw [next]
        exact .append given
      have fewer := remaining_lt kept (awaited request member) answered
      have later : HonestShell address fun n => transcript (n + 1) := fun n => honest (n + 1)
      obtain ⟨n, bounded, ends⟩ := ih _ (measure ▸ fewer) later rfl
      have one_fewer : n < remaining (transcript 0) := Nat.lt_of_le_of_lt bounded fewer
      exact ⟨n + 1, measure ▸ one_fewer, ends⟩
    · exact ⟨0, Nat.zero_le _, ends⟩

def Listed (answers : List LookupAnswer) (source : Source) (listed : List Nat) : Prop :=
  ∃ profile, answer answers (source.id "key") = some profile ∧
    source.unitIds profile = some listed

/-- A name is read from a unit that its source listed. -/
def NamedBy (answers : List LookupAnswer) (address name : String) (source : Source) : Prop :=
  ∃ listed, Listed answers source listed ∧ ∃ unitId ∈ listed, ∃ unit metadata,
    answer answers (source.unitKey unitId) = some unit ∧
      source.metadataIn unit = some metadata ∧ Names metadata address name

/-- No unit that a source listed and is asked about names the address. -/
def NobodyBy (answers : List LookupAnswer) (address : String) (source : Source) : Prop :=
  ∃ listed, Listed answers source listed ∧ ∀ unitId ∈ listed.take maxUnits, ∃ unit,
    answer answers (source.unitKey unitId) = some unit ∧ Unnamed source unit address

structure VerdictsEarned (address : String) (answers : List LookupAnswer) : Prop where
  forever : ∀ found, step address answers = .done found .forever →
    ∃ publicKey name, found = some ⟨name, publicKey⟩ ∧ KeyOnChain answers publicKey ∧
      ∃ source ∈ sources, NamedBy answers (toLowercase address) name source
  briefly : ∀ found, step address answers = .done found .briefly → found = none ∧
    ((∀ chainId ∈ homeChain :: otherChains, ∃ configured,
        answer answers (cfgId chainId) = some configured ∧ NotConfigured configured) ∨
      ∃ source ∈ sources, source ≠ .chain backupChain ∧
        NobodyBy answers (toLowercase address) source)
  asks : ∀ requests, step address answers = .ask requests →
    requests ≠ [] ∧ ∀ request ∈ requests, answer answers request.id = none
  ends : ∀ transcript, transcript 0 = answers → HonestShell address transcript →
    ∃ n, ∃ found remember, step address (transcript n) = .done found remember

theorem step_forever (ended : step address answers = .done found .forever) :
    ∃ publicKey name, found = some ⟨name, publicKey⟩ ∧ KeyOnChain answers publicKey ∧
      ∃ source ∈ sources, NamedBy answers (toLowercase address) name source := by
  unfold step at ended
  split at ended
  · cases ended
  · dsimp only at ended
    split at ended
    · cases ended
    · cases ended
    · cases ended
    · next publicKey key =>
        obtain ⟨name, same, source, among, profile, listed, answered, read, unitId, member, unit,
          given, named⟩ := walkSources_forever ended
        obtain ⟨metadata, held, names⟩ := nameIn_named named
        exact ⟨publicKey, name, same, foundingKey_key key, source, among, listed,
          ⟨profile, answered, read⟩, unitId, member, unit, metadata, given, held, names⟩

theorem step_briefly (ended : step address answers = .done found .briefly) : found = none ∧
      ((∀ chainId ∈ homeChain :: otherChains, ∃ configured,
          answer answers (cfgId chainId) = some configured ∧ NotConfigured configured) ∨
        ∃ source ∈ sources, source ≠ .chain backupChain ∧
          NobodyBy answers (toLowercase address) source) := by
  unfold step at ended
  split at ended
  · cases ended
  · dsimp only at ended
    split at ended
    · cases ended
    · next nobody =>
        cases ended
        exact ⟨rfl, .inl (foundingKey_nobody nobody)⟩
    · cases ended
    · obtain ⟨same, source, among, other, profile, listed, answered, read, units⟩ :=
        walkSources_briefly ended
      refine ⟨same, .inr ⟨source, among, other, listed, ⟨profile, answered, read⟩, ?_⟩⟩
      intro unitId member
      obtain ⟨unit, given, said⟩ := units unitId member
      exact ⟨unit, given, nameIn_unnamed said⟩

/-- A remembered verdict is earned, a lookup asks only for what it lacks, and an honest shell ends
it. -/
theorem verdicts_earned (address : String) (answers : List LookupAnswer) :
    VerdictsEarned address answers := by
  constructor
  case forever => exact fun _ => step_forever
  case briefly => exact fun _ => step_briefly
  case asks =>
    intro requests asked
    rcases step_cases address answers with ⟨others, same, some_request, awaited⟩ | ⟨_, _, ended⟩
    · rw [asked] at same
      cases same
      exact ⟨some_request, fun request member => (awaited request member).unanswered⟩
    · rw [asked] at ended
      cases ended
  case ends =>
    intro transcript _ honest
    obtain ⟨n, _, ended⟩ := ends_of_honest honest
    exact ⟨n, ended⟩

/-- A key's profile that lists nine units. -/
def nineUnits : String := "\x7b\"groups\":\x7b\"unitIds\":[9,8,7,6,5,4,3,2,1]\x7d\x7d"

/-- A chain's answer that holds a key. -/
def configuredBody : String := "0x" ++ String.ofList (List.replicate 128 '1')

@[reducible] def nineUnitsRuntime : LookupRuntime where
  toCaseTable := Utf8.asciiCaseTable
  keyProfile body :=
    if body = nineUnits then
      some (some ([9, 8, 7, 6, 5, 4, 3, 2, 1].map fun id => .number (.posInt id)))
    else none
  unitResponse _ := none
  metadataFromSlice _ := none
  encodeParams _ := []
  decodeParams _ _ := none

/-- The newest eight of nine units are answered for. -/
def eightAnswers : List LookupAnswer :=
  [⟨"cfg:100", .ok, some configuredBody⟩, ⟨"key", .ok, some nineUnits⟩] ++
    [9, 8, 7, 6, 5, 4, 3, 2].map fun unitId =>
      ⟨Source.index.unitKey unitId, .notFound, none⟩

omit [LookupRuntime] in
/-- Nobody is remembered though the ninth unit is never asked about. -/
theorem ninth_unit_unasked :
    @step nineUnitsRuntime registry eightAnswers = .done none .briefly ∧
      ¬((∀ chainId ∈ homeChain :: otherChains, ∃ configured,
          answer eightAnswers (cfgId chainId) = some configured ∧ NotConfigured configured) ∨
        ∃ source ∈ sources, source ≠ .chain backupChain ∧
          ∃ listed, @Listed nineUnitsRuntime eightAnswers source listed ∧
            ∀ unitId ∈ listed, ∃ unit, answer eightAnswers (source.unitKey unitId) = some unit ∧
              @Unnamed nineUnitsRuntime source unit
                (@toLowercase Utf8.asciiCaseTable registry)) := by
  constructor
  · decide +kernel
  · rintro (chains | ⟨source, among, other, listed, ⟨profile, given, read⟩, units⟩)
    · obtain ⟨configured, given, _⟩ := chains 8453 (by decide)
      have unasked : answer eightAnswers (cfgId 8453) = none := by decide
      rw [unasked] at given
      cases given
    · cases source with
      | chain chainId =>
        have home : chainId = homeChain := by
          simp only [sources, List.mem_cons, List.not_mem_nil, or_false] at among
          rcases among with same | same | same
          · cases same
          · exact Source.chain.inj same
          · exact absurd same other
        have unasked : answer eightAnswers ((Source.chain homeChain).id "key") = none := by
          decide
        rw [home, unasked] at given
        cases given
      | index =>
        have profile_is : answer eightAnswers (Source.index.id "key") =
            some ⟨"key", .ok, some nineUnits⟩ := by decide
        rw [profile_is] at given
        cases given
        have nine : 1 ∈ listed := by
          have all : @Source.unitIds nineUnitsRuntime .index ⟨"key", .ok, some nineUnits⟩ =
              some [9, 8, 7, 6, 5, 4, 3, 2, 1] := by decide
          rw [all] at read
          cases read
          decide
        obtain ⟨unit, answered, _⟩ := units 1 nine
        have unasked : answer eightAnswers (Source.index.unitKey 1) = none := by decide
        rw [unasked] at answered
        cases answered

end VelaWallet.RegistryLookup

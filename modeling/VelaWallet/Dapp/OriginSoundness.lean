import VelaWallet.Dapp.HostScript
import VelaWallet.Dapp.OriginReading

/-!
# The origin rules agree

Every rule decides an address as it decides its origin, and the rules decide alike on every web
address whose host is no name under `localhost`.  Such a name is a loopback host but no private
one.
-/

namespace VelaWallet.DappPermissions

open TrustedSigner (numberOf)

variable {host value : List Char}

theorem originOf_parsed {url origin : List Char} (found : originOf url = some origin) :
    ∃ scheme host port, parseOrigin url = some (scheme, host, port) ∧
      (scheme = "http".toList ∨ scheme = "https".toList) ∧
      parseOrigin origin = some (scheme, host, port.filter (· ≠ defaultPort scheme)) ∧
      origin = written scheme host (port.filter (· ≠ defaultPort scheme)) := by
  simp only [originOf, Option.bind_eq_bind, Option.bind_eq_some_iff] at found
  obtain ⟨⟨scheme, host, port⟩, parsed, kept⟩ := found
  dsimp only at kept
  split at kept
  · cases kept
  · next =>
      cases kept
      obtain ⟨named, lowered, isHost, fits⟩ := parseOrigin_some parsed
      refine ⟨scheme, host, port, parsed, by tauto, ?_, rfl⟩
      apply parseOrigin_written
      refine ⟨named, lowered, isHost, ?_⟩
      intro number same
      exact fits number (Option.eq_some_of_filter_eq_some same)

theorem rules_of_origin {url origin : List Char} (found : originOf url = some origin) :
    originOf origin = some origin ∧
      isInsecurePublicOrigin origin = isInsecurePublicOrigin url ∧
      originLock origin = originLock url ∧
      isSecureContext origin = isSecureContext url ∧
      ∀ debugMode, offersWallet origin debugMode = offersWallet url debugMode := by
  obtain ⟨scheme, host, port, parsed, web, again, same⟩ := originOf_parsed found
  have other : ¬ (scheme ≠ "http".toList ∧ scheme ≠ "https".toList) := by tauto
  have context : isSecureContext origin = isSecureContext url := by
    simp only [isSecureContext, parsed, again]
  refine ⟨?_, ?_, ?_, context, ?_⟩
  · simp only [originOf, again, Option.bind_eq_bind, Option.bind_some]
    rw [if_neg other, Option.filter_filter]
    rw [same]
    simp
  · simp only [isInsecurePublicOrigin, parsed, again]
  · simp only [originLock, parsed, again]
  · intro debugMode
    simp only [offersWallet, context, parsed, again]

theorem mem_splitOn {text : List Char} {mark letter : Char} (member : letter ∈ text) :
    letter = mark ∨ ∃ part ∈ text.splitOn mark, letter ∈ part := by
  induction text with
  | nil => cases member
  | cons first text ih =>
    rw [List.splitOn_cons_eq_if_modifyHead]
    by_cases here : (first == mark) = true
    · rw [if_pos here]
      rcases List.mem_cons.mp member with rfl | member
      · exact .inl (beq_iff_eq.mp here)
      · rcases ih member with same | ⟨part, among, held⟩
        · exact .inl same
        · exact .inr ⟨part, List.mem_cons_of_mem _ among, held⟩
    · rw [if_neg here]
      have some_part := List.splitOn_ne_nil mark text
      generalize text.splitOn mark = parts at ih some_part
      cases parts with
      | nil => exact absurd rfl some_part
      | cons head =>
        rcases List.mem_cons.mp member with rfl | member
        · exact .inr ⟨letter :: head, List.mem_cons_self, List.mem_cons_self⟩
        · rcases ih member with same | ⟨part, among, held⟩
          · exact .inl same
          · rcases List.mem_cons.mp among with rfl | among
            · exact .inr ⟨first :: part, List.mem_cons_self, List.mem_cons_of_mem _ held⟩
            · exact .inr ⟨part, List.mem_cons_of_mem _ among, held⟩

theorem dottedQuad_some {first second third fourth : Nat}
    (quad : dottedQuad host = some (first, second, third, fourth)) :
    second ≤ 255 ∧ ∀ letter ∈ host, letter = '.' ∨ letter.isDigit = true := by
  have octet : ∀ {part : List Char} {value : Nat}, octetOf part = some value →
      value ≤ 255 ∧ ∀ letter ∈ part, letter.isDigit = true := by
    intro part value read
    rw [octetOf_eq] at read
    split at read
    · next isOctet =>
        cases read
        simp only [isOctetJs, Bool.and_eq_true, decide_eq_true_eq] at isOctet
        exact ⟨isOctet.2, List.all_eq_true.mp isOctet.1.2⟩
    · cases read
  unfold dottedQuad at quad
  split at quad
  · next parts =>
      simp only [Option.bind_eq_bind, Option.bind_eq_some_iff, Option.pure_def, Option.some.injEq,
        Prod.mk.injEq] at quad
      obtain ⟨_, read_one, _, read_two, _, read_three, _, read_four, rfl, rfl, rfl, rfl⟩ := quad
      refine ⟨(octet read_two).1, ?_⟩
      intro letter member
      rcases @mem_splitOn host '.' letter member with same | ⟨part, among, held⟩
      · exact .inl same
      · rw [parts] at among
        simp only [List.mem_cons, List.not_mem_nil, or_false] at among
        right
        rcases among with rfl | rfl | rfl | rfl
        · exact (octet read_one).2 letter held
        · exact (octet read_two).2 letter held
        · exact (octet read_three).2 letter held
        · exact (octet read_four).2 letter held
  · cases quad

theorem unbracketed (first : host.head? ≠ some '[')
    (last : host.getLast? ≠ some ']') : stripClose (stripOpen host) = host := by
  have opened : ['['].isPrefixOf host = false := by
    rw [← Bool.not_eq_true, List.isPrefixOf_iff_prefix]
    rintro ⟨rest, rfl⟩
    exact first rfl
  have closed : [']'].isSuffixOf host = false := by
    rw [← Bool.not_eq_true, List.isSuffixOf_iff_suffix]
    rintro ⟨rest, rfl⟩
    exact last List.getLast?_concat
  rw [stripOpen, opened, if_neg Bool.false_ne_true, stripClose, closed,
    if_neg Bool.false_ne_true]

theorem private_of_quad {second third fourth : Nat} (lowered : IsLowered host)
    (quad : dottedQuad host = some (127, second, third, fourth)) :
    isLoopbackOrPrivateHost host = true := by
  obtain ⟨small, digits⟩ := dottedQuad_some quad
  have bracket : ∀ letter, letter ∈ host → letter ≠ '[' ∧ letter ≠ ']' ∧ letter ≠ ':' := by
    intro letter member
    rcases digits letter member with rfl | digit
    · decide
    · refine ⟨?_, ?_, ?_⟩ <;>
        · rintro rfl
          exact absurd digit (by decide)
  have bare : stripClose (stripOpen host) = host := by
    apply unbracketed
    · intro first
      exact (bracket _ (List.mem_of_head? first)).1 rfl
    · intro last
      exact (bracket _ (List.mem_of_getLast? last)).2.1 rfl
  have uncut : firstV6Group host = none := by
    rw [firstV6Group, Chars.splitOnce_absent fun member => (bracket ':' member).2.2 rfl]
    rfl
  have among : isPrivateV4 127 second = true := by
    simp [isPrivateV4, privateV4, small]
  simp only [isLoopbackOrPrivateHost, lowered.lower, bare, uncut, quad, Option.any_some, among,
    ite_self]

theorem private_of_loopback (isHost : IsHost host)
    (loopback : isLoopbackHost host = true) (other : ".localhost".toList.isSuffixOf host = false) :
    isLoopbackOrPrivateHost host = true := by
  simp only [isLoopbackHost, isHost.lowered.lower, other, Bool.or_eq_true, Bool.or_false,
    beq_iff_eq] at loopback
  rcases loopback with (rfl | rfl) | quad
  · decide
  · decide
  · obtain ⟨⟨first, second, third, fourth⟩, read, same⟩ := (Option.any_eq_true _ _).mp quad
    obtain rfl : first = 127 := beq_iff_eq.mp same
    exact private_of_quad isHost.lowered read

theorem public_of_localhost (isHost : IsHost host)
    (named : ".localhost".toList <:+ host) : isLoopbackOrPrivateHost host = false := by
  obtain ⟨label, rfl⟩ := named
  have last : (label ++ ".localhost".toList).getLast? = some 't' := by
    rw [List.getLast?_append]
    rfl
  obtain ⟨colon, first⟩ : ':' ∉ label ++ ".localhost".toList ∧
      (label ++ ".localhost".toList).head? ≠ some '[' := by
    rcases isHost.shape with ⟨inner, bracketed, _⟩ | shape
    · rw [bracketed, List.getLast?_concat] at last
      cases last
    · exact shape
  have bare : stripClose (stripOpen (label ++ ".localhost".toList)) =
      label ++ ".localhost".toList := by
    apply unbracketed first
    rw [last]
    exact nofun
  have uncut : firstV6Group (label ++ ".localhost".toList) = none := by
    rw [firstV6Group, Chars.splitOnce_absent colon]
    rfl
  have no_quad : dottedQuad (label ++ ".localhost".toList) = none := by
    cases quad : dottedQuad (label ++ ".localhost".toList) with
    | none => rfl
    | some octets =>
      obtain ⟨first, second, third, fourth⟩ := octets
      rcases (dottedQuad_some quad).2 't' (by simp) with same | digit
      · cases same
      · exact absurd digit (by decide)
  have no_name : isPrivateName (label ++ ".localhost".toList) = false := by
    rw [isPrivateName, Bool.or_eq_false_iff]
    constructor
    · rw [← Bool.not_eq_true, List.contains_iff_mem]
      intro member
      simp only [privateNames, List.mem_cons, List.not_mem_nil, or_false] at member
      rcases member with same | same
      · have length := congrArg List.length same
        simp at length
      · have length := congrArg List.length same
        simp at length
    · rw [← Bool.not_eq_true, List.any_eq_true]
      rintro ⟨suffix, member, ends⟩
      obtain rfl := List.mem_singleton.mp member
      obtain ⟨rest, same⟩ := List.isSuffixOf_iff_suffix.mp ends
      rw [← same, List.getLast?_append] at last
      cases last
  simp only [isLoopbackOrPrivateHost, isHost.lowered.lower, bare, uncut, no_quad, no_name]
  rfl

/-- An `http` address whose host is a name under `localhost`. -/
def isLocalhostName (value : List Char) : Bool :=
  match parseOrigin value with
  | some (scheme, host, _) => scheme == "http".toList && ".localhost".toList.isSuffixOf host
  | none => false

/-- The four rules agree on an address, and with the script's host rule on every host. -/
structure RulesAgree [JsCase] (value : List Char) : Prop where
  /-- A secure context is no insecure public origin. -/
  secure : isSecureContext value = true → isInsecurePublicOrigin value = false
  /-- Outside debug mode the wallet is offered to secure contexts. -/
  offered : offersWallet value false = isSecureContext value
  /-- In debug mode it is offered to what is not insecure, by either account. -/
  debug : (originOf value).isSome = true →
    (offersWallet value true = true ↔ isInsecurePublicOrigin value = false) ∧
      (offersWallet value true = true ↔ originLock value ≠ .insecure)
  /-- An address is decided as its origin, which is an origin of its own. -/
  origin : ∀ origin, originOf value = some origin →
    originOf origin = some origin ∧
      isInsecurePublicOrigin origin = isInsecurePublicOrigin value ∧
      originLock origin = originLock value ∧
      isSecureContext origin = isSecureContext value ∧
      ∀ debugMode, offersWallet origin debugMode = offersWallet value debugMode
  /-- The script decides every host as the wallet. -/
  script : ∀ host, privateHostJs host = isLoopbackOrPrivateHost host

theorem http_ne_https : "http".toList ≠ "https".toList := by decide

theorem rules_of_http {port : Option Nat}
    (parsed : parseOrigin value = some ("http".toList, host, port)) :
    isSecureContext value = isLoopbackHost host ∧
      isInsecurePublicOrigin value = !isLoopbackOrPrivateHost host ∧
      offersWallet value true = (isLoopbackHost host || isLoopbackOrPrivateHost host) ∧
      (originLock value ≠ .insecure ↔ isLoopbackOrPrivateHost host = true) := by
  have context : isSecureContext value = isLoopbackHost host := by
    simp only [isSecureContext, parsed, if_neg http_ne_https, beq_self_eq_true, Bool.true_and]
  refine ⟨context, ?_, ?_, ?_⟩
  · simp only [isInsecurePublicOrigin, parsed, beq_self_eq_true, Bool.true_and]
  · simp only [offersWallet, context, parsed, beq_self_eq_true, Bool.true_and]
  · simp only [originLock, parsed, if_neg http_ne_https, true_and]
    split
    · next isPrivate => simp [isPrivate]
    · next isPublic => simp [isPublic]

theorem rules_of_https {port : Option Nat}
    (parsed : parseOrigin value = some ("https".toList, host, port)) :
    isSecureContext value = true ∧ isInsecurePublicOrigin value = false ∧
      offersWallet value true = true ∧ originLock value = .secure := by
  have context : isSecureContext value = true := by
    simp only [isSecureContext, parsed, if_true]
  refine ⟨context, ?_, ?_, ?_⟩
  · simp only [isInsecurePublicOrigin, parsed]
    rw [beq_eq_false_iff_ne.mpr http_ne_https.symm, Bool.false_and]
  · rw [offersWallet, context, Bool.true_or]
  · simp only [originLock, parsed, if_true]

theorem debug_of_web [JsCase] (other : isLocalhostName value = false)
    (web : (originOf value).isSome = true) :
    (offersWallet value true = true ↔ isInsecurePublicOrigin value = false) ∧
      (offersWallet value true = true ↔ originLock value ≠ .insecure) := by
  obtain ⟨origin, found⟩ := Option.isSome_iff_exists.mp web
  obtain ⟨scheme, host, port, parsed, rfl | rfl, _⟩ := originOf_parsed found
  · obtain ⟨_, insecure, offered, lock⟩ := rules_of_http parsed
    have agreed : isLoopbackHost host = true → isLoopbackOrPrivateHost host = true := by
      intro loopback
      apply private_of_loopback (parseOrigin_some parsed).isHost loopback
      simpa [isLocalhostName, parsed] using other
    rw [insecure, offered, lock, Bool.or_eq_true, Bool.not_eq_false']
    constructor <;> exact ⟨fun either => either.elim agreed id, .inr⟩
  · obtain ⟨_, insecure, offered, lock⟩ := rules_of_https parsed
    rw [insecure, offered, lock]
    simp

theorem secure_of_context (other : isLocalhostName value = false)
    (secure : isSecureContext value = true) : isInsecurePublicOrigin value = false := by
  cases parsed : parseOrigin value with
  | none =>
    rw [isSecureContext, parsed] at secure
    cases secure
  | some parts =>
    obtain ⟨scheme, host, port⟩ := parts
    by_cases plain : scheme = "http".toList
    · subst plain
      obtain ⟨context, insecure, _⟩ := rules_of_http parsed
      rw [context] at secure
      rw [insecure, Bool.not_eq_false']
      apply private_of_loopback (parseOrigin_some parsed).isHost secure
      simpa [isLocalhostName, parsed] using other
    · simp only [isInsecurePublicOrigin, parsed]
      rw [beq_eq_false_iff_ne.mpr plain, Bool.false_and]

/-- The rules agree on exactly the addresses that are no `http` name under `localhost`. -/
theorem rulesAgree_iff [JsCase] (value : List Char) :
    RulesAgree value ↔ isLocalhostName value = false := by
  constructor
  · intro agree
    by_contra named
    rw [Bool.not_eq_false, isLocalhostName] at named
    cases parsed : parseOrigin value with
    | none =>
      rw [parsed] at named
      cases named
    | some parts =>
      obtain ⟨scheme, host, port⟩ := parts
      simp only [parsed, Bool.and_eq_true, beq_iff_eq, List.isSuffixOf_iff_suffix] at named
      obtain ⟨rfl, named⟩ := named
      have isHost := (parseOrigin_some parsed).isHost
      obtain ⟨context, insecure, _⟩ := rules_of_http parsed
      have loopback : isLoopbackHost host = true := by
        have ends : ".localhost".toList.isSuffixOf host = true :=
          List.isSuffixOf_iff_suffix.mpr named
        simp only [isLoopbackHost, isHost.lowered.lower, ends, Bool.or_true, Bool.true_or]
      have agreed := agree.secure (context.trans loopback)
      rw [insecure, public_of_localhost isHost named] at agreed
      cases agreed
  · intro other
    constructor
    case secure => exact secure_of_context other
    case offered => simp [offersWallet]
    case debug => exact debug_of_web other
    case origin => exact fun origin found => rules_of_origin found
    case script => exact privateHostJs_eq

/-- JavaScript's lower-casing of texts that hold no letter beyond ASCII. -/
@[reducible] def asciiCase : JsCase where
  lowerAt _ letter _ := [letter.toLower]
  lowerAt_ascii _ := rfl
  lowerAt_ne_nil := List.cons_ne_nil _ _
  lowerAt_beyond beyond member small := by
    rw [List.mem_singleton.mp member, toLower_beyond beyond] at small
    omega

/-- A page under development served on a name of its own is handed the wallet, and refused as
an insecure public page. -/
theorem localhost_refused :
    isSecureContext "http://app.localhost:8080/".toList = true ∧
      offersWallet "http://app.localhost:8080/".toList false = true ∧
      isInsecurePublicOrigin "http://app.localhost:8080/".toList = true ∧
      originLock "http://app.localhost:8080/".toList = .insecure ∧
      ¬ @RulesAgree asciiCase "http://app.localhost:8080/".toList := by
  have secure : isSecureContext "http://app.localhost:8080/".toList = true := by decide
  have insecure : isInsecurePublicOrigin "http://app.localhost:8080/".toList = true := by
    decide
  refine ⟨secure, by decide, insecure, by decide, ?_⟩
  intro agree
  rw [@RulesAgree.secure asciiCase _ agree secure] at insecure
  cases insecure

end VelaWallet.DappPermissions

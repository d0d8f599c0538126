import Mathlib
import VelaWallet.Base.Decimal
import VelaWallet.Dapp.Origins

/-!
# Reading a written origin

What an address parses to is what its origin parses to, but for a port its scheme implies.
-/

namespace VelaWallet.DappPermissions

open TrustedSigner (isControl authorityOf numberOf)

variable {mark : Char} {host scheme text : List Char} {digits : Option (List Char)}
  {port : Option Nat}

theorem toLower_eq_iff {letter : Char} (plain : mark.isAlpha = false) :
    letter.toLower = mark ↔ letter = mark := by
  constructor
  · intro same
    have other : ¬ letter.isUpper = true := by
      intro upper
      have alpha : letter.toLower.isAlpha = true := by
        rw [Char.isAlpha_toLower_eq_isAlpha, Char.isAlpha, upper, Bool.true_or]
      rw [same, plain] at alpha
      cases alpha
    rw [← same, Char.toLower_eq_of_not_isUpper other]
  · rintro rfl
    apply Char.toLower_eq_of_not_isUpper
    intro upper
    rw [Char.isAlpha, upper, Bool.true_or] at plain
    cases plain

theorem mem_lower_iff (plain : mark.isAlpha = false) :
    mark ∈ Chars.lower text ↔ mark ∈ text := by
  rw [Chars.lower, List.mem_map]
  constructor
  · rintro ⟨letter, member, same⟩
    rwa [← (toLower_eq_iff plain).mp same]
  · intro member
    exact ⟨mark, member, (toLower_eq_iff plain).mpr rfl⟩

def IsLowered (text : List Char) : Prop := ∀ letter ∈ text, letter.isUpper = false

theorem isLowered_lower (text : List Char) : IsLowered (Chars.lower text) := by
  intro letter member
  obtain ⟨letter, _, rfl⟩ := List.mem_map.mp member
  exact Char.isUpper_toLower_eq_false letter

theorem IsLowered.lower (lowered : IsLowered text) : Chars.lower text = text := by
  rw [Chars.lower, List.map_congr_left, List.map_id']
  intro letter member
  apply Char.toLower_eq_of_not_isUpper
  rw [lowered letter member]
  exact Bool.false_ne_true

/-- A character that no host may hold. -/
def isUnseen (letter : Char) : Bool := Utf8.isWhitespace letter || isControl letter

theorem isUnseen_toLower {letter : Char} (seen : isUnseen letter = false) :
    isUnseen letter.toLower = false := by
  by_cases upper : letter.isUpper = true
  · have lower : letter.toLower.isLower = true := by
      rw [Char.isLower_toLower_eq_isAlpha, Char.isAlpha, upper, Bool.true_or]
    generalize letter.toLower = lowered at lower
    obtain ⟨low, high⟩ : 97 ≤ lowered.toNat ∧ lowered.toNat ≤ 122 := by
      simp only [Char.isLower, Bool.and_eq_true, decide_eq_true_eq] at lower
      exact ⟨UInt32.le_iff_toNat_le.mp lower.1, UInt32.le_iff_toNat_le.mp lower.2⟩
    simp only [isUnseen, Utf8.isWhitespace, isControl, Bool.or_eq_false_iff, Bool.and_eq_false_iff,
      decide_eq_false_iff_not, beq_eq_false_iff_ne]
    omega
  · rwa [Char.toLower_eq_of_not_isUpper upper]

/-- A host as an address gives it. -/
structure IsHost (host : List Char) : Prop where
  some_letter : host ≠ []
  lowered : IsLowered host
  seen : host.any isUnseen = false
  plain : ∀ mark ∈ ['/', '?', '#', '@'], mark ∉ host
  shape : (∃ inner, host = '[' :: inner ++ [']'] ∧ ']' ∉ inner) ∨
    ':' ∉ host ∧ host.head? ≠ some '['

/-- What a host is followed by in an authority. -/
def portText : Option Nat → List Char
  | some port => ':' :: Nat.toDigits 10 port
  | none => []

theorem hostOf_append (isHost : IsHost host) (port : Option Nat) :
    hostOf (host ++ portText port) = some (host, port.map (Nat.toDigits 10)) := by
  rcases isHost.shape with ⟨inner, rfl, absent⟩ | ⟨absent, unbracketed⟩
  · have cut := Chars.splitOnce_append absent [] (portText port)
    have parts : ('[' :: inner ++ [']']) ++ portText port =
        '[' :: (inner ++ [']'] ++ portText port) := by simp
    rw [parts, hostOf, cut]
    cases port <;> rfl
  · have other : ∀ rest, host ++ portText port ≠ '[' :: rest := by
      intro rest same
      cases host with
      | nil => exact isHost.some_letter rfl
      | cons =>
        cases same
        exact unbracketed rfl
    unfold hostOf
    split
    · next rest same => exact absurd same (other rest)
    · cases port with
      | none =>
        rw [portText, List.append_nil, Chars.splitOnce_absent absent]
        rfl
      | some port =>
        have cut := Chars.splitOnce_append absent [] (Nat.toDigits 10 port)
        rw [← List.append_cons] at cut
        rw [portText, cut]
        rfl

theorem hostOf_parts {hostPort : List Char} (given : hostOf hostPort = some (host, digits)) :
    host ⊆ hostPort ∧
      ((∃ inner, host = '[' :: inner ++ [']'] ∧ ']' ∉ inner) ∨
        ':' ∉ host ∧ (host ≠ [] → host.head? ≠ some '[')) := by
  unfold hostOf at given
  split at given
  · next =>
      simp only [Option.bind_eq_bind, Option.bind_eq_some_iff] at given
      obtain ⟨⟨inner, after⟩, cut, rest⟩ := given
      obtain ⟨rfl, absent⟩ := Chars.splitOnce_some cut
      obtain rfl : host = '[' :: inner ++ [']'] := by
        dsimp only at rest
        split at rest
        · cases rest
          rfl
        · cases rest
          rfl
        · cases rest
      refine ⟨?_, .inl ⟨inner, rfl, absent⟩⟩
      intro letter member
      simp only [List.cons_append, List.mem_cons, List.mem_append, List.not_mem_nil, or_false] at member ⊢
      tauto
  · next unbracketed =>
      have begins : hostPort.head? ≠ some '[' := by
        intro begins
        obtain ⟨rest, rfl⟩ := List.head?_eq_some_iff.mp begins
        exact unbracketed rest rfl
      split at given
      · next cut =>
          cases given
          obtain ⟨rfl, absent⟩ := Chars.splitOnce_some cut
          refine ⟨List.subset_append_left _ _, .inr ⟨absent, ?_⟩⟩
          intro some_letter
          rwa [List.head?_append_of_ne_nil _ some_letter] at begins
      · next uncut =>
          cases given
          exact ⟨List.Subset.refl _, .inr ⟨Chars.splitOnce_none uncut, fun _ => begins⟩⟩

theorem isHost_of_hostOf {hostPort : List Char}
    (given : hostOf hostPort = some (host, digits)) (some_letter : host ≠ [])
    (seen : host.any isUnseen = false)
    (plain : ∀ mark ∈ ['/', '?', '#', '@'], mark ∉ hostPort) : IsHost (Chars.lower host) := by
  obtain ⟨within, shape⟩ := hostOf_parts given
  constructor
  case some_letter => simpa [Chars.lower] using some_letter
  case lowered => exact isLowered_lower host
  case seen =>
    rw [List.any_eq_false] at seen ⊢
    intro letter member
    obtain ⟨letter, held, rfl⟩ := List.mem_map.mp member
    rw [isUnseen_toLower (by simpa using seen letter held)]
    exact Bool.false_ne_true
  case plain =>
    intro mark member held
    have other : mark.isAlpha = false := by
      simp only [List.mem_cons, List.not_mem_nil, or_false] at member
      rcases member with rfl | rfl | rfl | rfl <;> decide
    exact plain mark member (within ((mem_lower_iff other).mp held))
  case shape =>
    rcases shape with ⟨inner, rfl, absent⟩ | ⟨absent, begins⟩
    · refine .inl ⟨Chars.lower inner, ?_, ?_⟩
      · rw [Chars.lower, Chars.lower, List.map_append, List.map_cons]
        rfl
      · rwa [mem_lower_iff (by decide)]
    · refine .inr ⟨?_, ?_⟩
      · rwa [mem_lower_iff (by decide)]
      · intro opened
        apply begins some_letter
        rw [Chars.lower, List.head?_map] at opened
        obtain ⟨first, head, same⟩ := Option.map_eq_some_iff.mp opened
        rw [head, (toLower_eq_iff (by decide)).mp same]

theorem numberOf_toDigits (port : Nat) : numberOf (Nat.toDigits 10 port) = port := by
  have same : numberOf (Nat.toDigits 10 port) = Nat.ofDigitChars 10 (Nat.toDigits 10 port) 0 := by
    rw [numberOf, Nat.ofDigitChars]
    congr 1
    funext value digit
    rw [Nat.mul_comm]
    rfl
  rw [same, Nat.ofDigitChars_ten_toDigits]

theorem portOf_toDigits {port : Nat} (fits : port ≤ 65535) :
    portOf (some (Nat.toDigits 10 port)) = some (some port) := by
  have digits : (Nat.toDigits 10 port).all Char.isDigit = true := by
    rw [List.all_eq_true]
    intro letter member
    exact Nat.isDigit_of_mem_toDigits (by decide) (by decide) member
  have some_digit : (Nat.toDigits 10 port).isEmpty = false := by
    simp [Nat.toDigits_ne_nil]
  have small : port < 2 ^ 32 := Nat.lt_of_le_of_lt fits (by decide)
  simp only [portOf, some_digit, digits, numberOf_toDigits, small, if_true]
  rw [if_neg Bool.false_ne_true, if_neg (Nat.not_lt.mpr fits)]

theorem portOf_le {port : Nat} (read : portOf digits = some (some port)) : port ≤ 65535 := by
  unfold portOf at read
  split at read
  · cases read
  · split at read
    · cases read
    · split at read
      · split at read
        · split at read
          · cases read
          · next fits =>
              cases read
              exact Nat.le_of_not_lt fits
        · cases read
      · cases read

/-- The parts of an address. -/
structure IsParsed (scheme host : List Char) (port : Option Nat) : Prop where
  named : isScheme scheme = true
  lowered : IsLowered scheme
  isHost : IsHost host
  fits : ∀ number, port = some number → number ≤ 65535

theorem isScheme_lower (named : isScheme scheme = true) :
    isScheme (Chars.lower scheme) = true := by
  cases scheme with
  | nil => cases named
  | cons =>
    simp only [isScheme, Bool.and_eq_true, List.all_eq_true] at named
    simp only [Chars.lower, List.map_cons, isScheme, Bool.and_eq_true, List.all_eq_true]
    refine ⟨by rw [Char.isAlpha_toLower_eq_isAlpha, named.1], ?_⟩
    intro letter member
    obtain ⟨letter, held, rfl⟩ := List.mem_map.mp member
    have fits := named.2 letter held
    by_cases upper : letter.isUpper = true
    · have alpha : letter.toLower.isAlpha = true := by
        rw [Char.isAlpha_toLower_eq_isAlpha, Char.isAlpha, upper, Bool.true_or]
      rw [Char.isAlphanum, alpha]
      rfl
    · rwa [Char.toLower_eq_of_not_isUpper upper]

theorem rsplitOnce_some {before after : List Char}
    (cut : Chars.rsplitOnce mark text = some (before, after)) :
    after ⊆ text ∧ mark ∉ after := by
  unfold Chars.rsplitOnce at cut
  split at cut
  · cases cut
    constructor
    · intro letter member
      have kept := (List.takeWhile_sublist _).subset (List.mem_reverse.mp member)
      exact List.mem_reverse.mp kept
    · intro member
      have kept := List.mem_takeWhile_imp (List.mem_reverse.mp member)
      simp at kept
  · cases cut

theorem parseOrigin_some {value : List Char}
    (parsed : parseOrigin value = some (scheme, host, port)) : IsParsed scheme host port := by
  simp only [parseOrigin, Option.bind_eq_bind, Option.bind_eq_some_iff] at parsed
  obtain ⟨⟨name, rest⟩, _, parsed⟩ := parsed
  dsimp only at parsed
  split at parsed
  · next named =>
      obtain ⟨⟨given, digits⟩, read, parsed⟩ := Option.bind_eq_some_iff.mp parsed
      dsimp only at parsed
      split at parsed
      · cases parsed
      · next visible =>
          obtain ⟨number, ported, same⟩ := Option.bind_eq_some_iff.mp parsed
          cases same
          rw [Bool.not_eq_true, Bool.or_eq_false_iff] at visible
          refine ⟨isScheme_lower named, isLowered_lower name, ?_, ?_⟩
          · apply isHost_of_hostOf read (by simpa using visible.1) visible.2
            have outside : ∀ mark ∈ ['/', '?', '#'], mark ∉ authorityOf rest := by
              intro mark member held
              have kept := List.mem_takeWhile_imp held
              rw [List.contains_iff_mem.mpr member] at kept
              cases kept
            intro mark member held
            cases cut : Chars.rsplitOnce '@' (authorityOf rest) with
            | some parts =>
              obtain ⟨user, after⟩ := parts
              rw [cut] at held
              obtain ⟨within, absent⟩ := rsplitOnce_some cut
              by_cases userinfo : mark = '@'
              · subst userinfo
                exact absent held
              · refine outside mark ?_ (within held)
                simpa [userinfo] using member
            | none =>
              rw [cut] at held
              by_cases userinfo : mark = '@'
              · subst userinfo
                simp [Chars.rsplitOnce, held] at cut
              · refine outside mark ?_ held
                simpa [userinfo] using member
          · rintro number rfl
            exact portOf_le ported
  · cases parsed

theorem portText_plain (member : mark ∈ ['/', '?', '#', '@']) :
    mark ∉ portText port := by
  cases port with
  | none => exact List.not_mem_nil
  | some =>
    intro held
    have other : mark ≠ ':' ∧ mark.isDigit = false := by
      simp only [List.mem_cons, List.not_mem_nil, or_false] at member
      rcases member with rfl | rfl | rfl | rfl <;> decide
    rcases List.mem_cons.mp held with colon | digit
    · exact other.1 colon
    · have isDigit := Nat.isDigit_of_mem_toDigits (by decide) (by decide) digit
      rw [other.2] at isDigit
      cases isDigit

theorem parseOrigin_written (parsed : IsParsed scheme host port) :
    parseOrigin (written scheme host port) = some (scheme, host, port) := by
  have colon : ':' ∉ scheme := by
    intro member
    have named := parsed.named
    cases scheme with
    | nil => cases member
    | cons =>
      simp only [isScheme, Bool.and_eq_true, List.all_eq_true] at named
      rcases List.mem_cons.mp member with rfl | member
      · exact absurd named.1 (by decide)
      · exact absurd (named.2 ':' member) (by decide)
  have text : written scheme host port = scheme ++ (':' :: ['/', '/']) ++ (host ++ portText port) := by
    cases port <;> simp [written, portText]
  have plain : ∀ mark ∈ ['/', '?', '#', '@'], mark ∉ host ++ portText port := by
    intro mark member held
    rcases List.mem_append.mp held with inHost | inPort
    · exact parsed.isHost.plain mark member inHost
    · exact portText_plain member inPort
  have authority : authorityOf (host ++ portText port) = host ++ portText port := by
    rw [authorityOf, List.takeWhile_eq_self_iff]
    intro letter member
    rw [Bool.not_eq_true', ← Bool.not_eq_true, List.contains_iff_mem]
    intro mark
    refine plain letter ?_ member
    exact List.mem_append_left ['@'] mark
  have nobody : Chars.rsplitOnce '@' (host ++ portText port) = none :=
    if_neg (plain '@' (by simp))
  have digits : portOf (port.map (Nat.toDigits 10)) = some port := by
    cases port with
    | none => rfl
    | some port => exact portOf_toDigits (parsed.fits port rfl)
  have cut := Chars.splitOnce_append colon ['/', '/'] (host ++ portText port)
  have visible : host.any (fun letter => Utf8.isWhitespace letter || isControl letter) = false :=
    parsed.isHost.seen
  have some_letter : host.isEmpty = false := by simpa using parsed.isHost.some_letter
  have mark : "://".toList = ':' :: ['/', '/'] := rfl
  rw [text, parseOrigin, mark, cut]
  simp only [Option.bind_eq_bind, Option.bind_some, parsed.named, if_true, authority, nobody,
    hostOf_append parsed.isHost, visible, some_letter, Bool.or_false, Bool.false_eq_true, if_false, digits,
    parsed.lowered.lower, parsed.isHost.lowered.lower]

end VelaWallet.DappPermissions

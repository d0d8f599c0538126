import Mathlib
import VelaWallet.Base.Blurred
import VelaWallet.Base.Decimal
import VelaWallet.Dapp.Origins

/-!
# The host rule in the page

The script's host rule decides every host as the wallet's own: JavaScript lower-cases more
characters than ASCII's, but none of them becomes one that the rule looks for.
-/

namespace VelaWallet.DappPermissions

open TrustedSigner (isAsciiHexdigit numberOf)

variable {letter : Char} {host : List Char}

/-- The characters the host rule looks for. -/
def isLookedFor (letter : Char) : Bool := "0123456789abcdef.:[]lohst".toList.contains letter

theorem toLower_beyond (beyond : 128 ≤ letter.toNat) : letter.toLower = letter := by
  unfold Char.toLower
  rw [dif_neg]
  intro upper
  have small : letter.toNat ≤ 90 := upper.2
  omega

theorem isLookedFor_beyond (beyond : 128 ≤ letter.toNat) :
    isLookedFor letter = false := by
  rw [isLookedFor, Bool.eq_false_iff, ne_eq, List.contains_iff_mem]
  intro member
  have small : "0123456789abcdef.:[]lohst".toList.all (·.toNat < 128) = true := by decide
  have fits := List.all_eq_true.mp small letter member
  simp only [decide_eq_true_eq] at fits
  omega

section Script

variable [JsCase]

theorem lowerAfter_blurred (before text : List Char) :
    Blurred isLookedFor (lowerAfter before text) (Chars.lower text) := by
  induction text generalizing before with
  | nil => exact .nil
  | cons letter _ ih =>
    rw [lowerAfter, Chars.lower, List.map_cons]
    by_cases ascii : letter.toNat < 128
    · rw [JsCase.lowerAt_ascii ascii]
      exact .same (ih _)
    · have beyond := Nat.le_of_not_lt ascii
      rw [toLower_beyond beyond]
      apply Blurred.foreign JsCase.lowerAt_ne_nil (List.cons_ne_nil letter []) _ _ (ih _)
      · intro lowered member
        by_cases small : lowered.toNat < 128
        · rcases JsCase.lowerAt_beyond beyond member small with rfl | rfl <;> decide
        · exact isLookedFor_beyond (Nat.le_of_not_lt small)
      · intro other member
        rw [List.mem_singleton.mp member]
        exact isLookedFor_beyond beyond

end Script

variable {left right : List Char}

section

variable (blurred : Blurred isLookedFor left right)
include blurred

theorem isPrivateName_congr :
    isPrivateName left = isPrivateName right := by
  have names : privateNames.all (·.all isLookedFor) = true := by decide
  have suffixes : privateSuffixes.all (·.all isLookedFor) = true := by decide
  have named : ∀ name ∈ privateNames, (left = name ↔ right = name) := by
    intro name member
    exact blurred.eq_iff (List.all_eq_true.mp names name member)
  have ended : ∀ suffix ∈ privateSuffixes, (suffix <:+ left ↔ suffix <:+ right) := by
    intro suffix member
    exact blurred.suffix_iff (List.all_eq_true.mp suffixes suffix member)
  rw [Bool.eq_iff_iff]
  simp only [isPrivateName, Bool.or_eq_true, List.contains_iff_mem, List.any_eq_true,
    List.isSuffixOf_iff_suffix]
  apply or_congr
  · constructor
    · intro member
      rwa [(named left member).mp rfl]
    · intro member
      rwa [(named right member).mpr rfl]
  · apply exists_congr
    intro suffix
    exact and_congr_right fun member => ended suffix member

theorem stripOpen_blurred :
    Blurred isLookedFor (stripOpen left) (stripOpen right) := by
  have same : ['['] <+: left ↔ ['['] <+: right := blurred.prefix_iff (by decide)
  unfold stripOpen
  simp only [List.isPrefixOf_iff_prefix, ← same]
  split
  · next opened => exact blurred.drop_head (by decide) opened
  · exact blurred

theorem stripClose_blurred :
    Blurred isLookedFor (stripClose left) (stripClose right) := by
  have same : [']'] <:+ left ↔ [']'] <:+ right := blurred.suffix_iff (by decide)
  unfold stripClose
  simp only [List.isSuffixOf_iff_suffix, ← same]
  split
  · next closed => exact blurred.drop_last (by decide) closed
  · exact blurred

end

def isLowerHex (letter : Char) : Bool := letter.isDigit || ('a' ≤ letter && letter ≤ 'f')

theorem isLookedFor_digit (letter : Char) (digit : letter.isDigit = true) :
    isLookedFor letter = true := by
  have codes : ∀ code < 58, 48 ≤ code → isLookedFor (Char.ofNat code) = true := by decide
  obtain ⟨low, high⟩ := Decimal.isDigit_range digit
  rw [← Char.ofNat_toNat letter]
  exact codes letter.toNat (Nat.lt_succ_of_le high) low

theorem isLookedFor_hex (letter : Char) (hex : isLowerHex letter = true) :
    isLookedFor letter = true := by
  have codes : ∀ code < 103, 97 ≤ code → isLookedFor (Char.ofNat code) = true := by decide
  simp only [isLowerHex, Bool.or_eq_true, Bool.and_eq_true, decide_eq_true_eq] at hex
  rcases hex with digit | ⟨low, high⟩
  · exact isLookedFor_digit letter digit
  · rw [← Char.ofNat_toNat letter]
    exact codes letter.toNat (Nat.lt_succ_of_le high) low

theorem firstGroupJs_iff {group : List Char} :
    firstGroupJs host = some group ↔
      group.length = 4 ∧ group.all isLowerHex = true ∧ ∃ rest, host = group ++ ':' :: rest := by
  have hex : (fun letter : Char => letter.isDigit || (decide ('a' ≤ letter) && decide (letter ≤ 'f'))) =
      isLowerHex := rfl
  simp only [firstGroupJs, hex]
  constructor
  · intro captured
    split at captured
    · next fits =>
        cases captured
        obtain ⟨four, digits, colon⟩ := fits
        refine ⟨four, digits, (host.drop 4).tail, ?_⟩
        have split := List.cons_head?_tail colon
        rw [split, List.take_append_drop]
    · cases captured
  · rintro ⟨four, digits, rest, rfl⟩
    have taken : (group ++ ':' :: rest).take 4 = group := by
      rw [← four, List.take_left]
    have left : (group ++ ':' :: rest).drop 4 = ':' :: rest := by
      rw [← four, List.drop_left]
    rw [taken, left, if_pos ⟨four, digits, rfl⟩]

theorem firstGroupJs_congr (blurred : Blurred isLookedFor left right) :
    firstGroupJs left = firstGroupJs right := by
  have follows : ∀ {left right group : List Char}, Blurred isLookedFor left right →
      firstGroupJs left = some group → firstGroupJs right = some group := by
    intro left right group blurred captured
    obtain ⟨four, digits, rest, rfl⟩ := firstGroupJs_iff.mp captured
    have known : (group ++ [':']).all isLookedFor = true := by
      rw [List.all_eq_true]
      intro letter member
      rcases List.mem_append.mp member with digit | colon
      · exact isLookedFor_hex letter (List.all_eq_true.mp digits letter digit)
      · rw [List.mem_singleton.mp colon]
        decide
    rw [List.append_cons] at blurred
    obtain ⟨others, rfl, _⟩ := blurred.word_append known
    exact firstGroupJs_iff.mpr ⟨four, digits, others, (List.append_cons ..).symm⟩
  apply Option.ext
  intro group
  exact ⟨follows blurred, follows blurred.symm⟩

/-- The script's rule for a lower-cased host without its brackets. -/
def isPrivateJs (host : List Char) : Bool :=
  if isPrivateName host then true
  else
    match firstGroupJs host with
    | some group => isPrivateV6 (hexNumber group)
    | none =>
      let parts := host.splitOn '.'
      if parts.length ≠ 4 then false
      else if !parts.all isOctetJs then false
      else isPrivateV4 (numberOf (parts.getD 0 [])) (numberOf (parts.getD 1 []))

theorem isOctetJs_congr (blurred : Blurred isLookedFor left right) :
    isOctetJs left = isOctetJs right := by
  have digits := blurred.all_eq isLookedFor_digit
  cases passes : left.all Char.isDigit with
  | true => rw [blurred.eq_of_all isLookedFor_digit passes]
  | false =>
    rw [passes] at digits
    simp [isOctetJs, passes, ← digits]

theorem parts_congr {lefts rights : List (List Char)}
    (alike : List.Forall₂ (Blurred isLookedFor) lefts rights) :
    lefts.all isOctetJs = rights.all isOctetJs ∧
      (lefts.all isOctetJs = true → rights = lefts) := by
  induction alike with
  | nil => exact ⟨rfl, fun _ => rfl⟩
  | @cons left right _ _ blurred _ ih =>
    rw [List.all_cons, List.all_cons, isOctetJs_congr blurred, ih.1]
    refine ⟨rfl, ?_⟩
    intro octets
    simp only [Bool.and_eq_true] at octets
    have digits : right.all Char.isDigit = true := by
      have octet := octets.1
      simp only [isOctetJs, Bool.and_eq_true] at octet
      exact octet.1.2
    rw [ih.2 (ih.1 ▸ octets.2), blurred.symm.eq_of_all isLookedFor_digit digits]

theorem isPrivateJs_congr (blurred : Blurred isLookedFor left right) :
    isPrivateJs left = isPrivateJs right := by
  have alike : List.Forall₂ (Blurred isLookedFor) (left.splitOn '.') (right.splitOn '.') :=
    blurred.splitOn (by decide)
  obtain ⟨octets, parts⟩ := parts_congr alike
  simp only [isPrivateJs, isPrivateName_congr blurred, firstGroupJs_congr blurred, alike.length_eq,
    octets]
  cases passes : (right.splitOn '.').all isOctetJs with
  | true =>
    rw [octets, passes] at parts
    rw [parts rfl]
  | false => rfl

/-- The wallet's rule for a lower-cased host without its brackets. -/
def isPrivate (host : List Char) : Bool :=
  if isPrivateName host then true
  else
    match firstV6Group host with
    | some group => isPrivateV6 group
    | none => (dottedQuad host).any fun quad => isPrivateV4 quad.1 quad.2.1

theorem isLowerHex_of_hex (lowered : letter.isUpper = false) :
    isAsciiHexdigit letter = isLowerHex letter := by
  have other : (decide ('A' ≤ letter) && decide (letter ≤ 'F')) = false := by
    rw [Bool.eq_false_iff, ne_eq, Bool.and_eq_true, decide_eq_true_eq, decide_eq_true_eq]
    rintro ⟨low, high⟩
    have upper : letter.isUpper = true := by
      simp only [Char.isUpper, decide_eq_true_eq]
      exact ⟨low, Nat.le_trans high (by decide : 'F'.toNat ≤ 'Z'.toNat)⟩
    rw [lowered] at upper
    cases upper
  rw [isAsciiHexdigit, isLowerHex, other, Bool.or_false]

theorem firstV6Group_eq (lowered : ∀ letter ∈ host, letter.isUpper = false) :
    firstV6Group host = (firstGroupJs host).map hexNumber := by
  cases captured : firstGroupJs host with
  | some group =>
    obtain ⟨four, digits, rest, rfl⟩ := firstGroupJs_iff.mp captured
    have absent : ':' ∉ group := by
      intro colon
      have hex := List.all_eq_true.mp digits ':' colon
      exact absurd hex (by decide)
    have hex : group.all isAsciiHexdigit = true := by
      rw [List.all_eq_true] at digits ⊢
      intro letter member
      rw [isLowerHex_of_hex (lowered letter (List.mem_append_left _ member))]
      exact digits letter member
    have cut := Chars.splitOnce_append absent [] rest
    rw [← List.append_cons] at cut
    simpa [firstV6Group, cut, four] using List.all_eq_true.mp hex
  | none =>
    rw [Option.map_none, firstV6Group]
    cases cut : Chars.splitOnce [':'] host with
    | none => rfl
    | some parts =>
      obtain ⟨group, rest⟩ := parts
      obtain ⟨rfl, _⟩ := Chars.splitOnce_some cut
      have other : ¬ (group.length = 4 ∧ group.all isAsciiHexdigit = true) := by
        rintro ⟨four, digits⟩
        have hex : group.all isLowerHex = true := by
          rw [List.all_eq_true] at digits ⊢
          intro letter member
          rw [← isLowerHex_of_hex (lowered letter (List.mem_append_left _ member))]
          exact digits letter member
        rw [firstGroupJs_iff.mpr ⟨four, hex, rest, rfl⟩] at captured
        cases captured
      rw [not_and_or, Bool.not_eq_true] at other
      simp only [Option.bind_eq_bind, Option.bind_some]
      rw [if_pos]
      rcases other with short | digits
      · simp [short]
      · rw [digits, Bool.not_false, Bool.or_true]

theorem octetOf_eq (part : List Char) :
    octetOf part = if isOctetJs part then some (numberOf part) else none := by
  unfold octetOf isOctetJs
  cases part with
  | nil => rfl
  | cons letter rest =>
    generalize all : (letter :: rest).all Char.isDigit = digits
    generalize numberOf (letter :: rest) = number
    cases digits with
    | false => simp
    | true =>
      by_cases long : 3 < (letter :: rest).length
      · have short : ¬ (letter :: rest).length ≤ 3 := Nat.not_le.mpr long
        simp only [long, short, decide_true, decide_false, Bool.or_true, Bool.true_or,
          Bool.and_false, Bool.false_and, if_true]
        rfl
      · have short : (letter :: rest).length ≤ 3 := Nat.le_of_not_lt long
        simp only [long, short, List.isEmpty_cons, decide_false, decide_true]
        simp

theorem dottedQuad_eq (host : List Char) :
    ((dottedQuad host).any fun quad => isPrivateV4 quad.1 quad.2.1) =
      let parts := host.splitOn '.'
      if parts.length ≠ 4 then false
      else if !parts.all isOctetJs then false
      else isPrivateV4 (numberOf (parts.getD 0 [])) (numberOf (parts.getD 1 [])) := by
  unfold dottedQuad
  generalize host.splitOn '.' = parts
  split
  · next first second third fourth =>
      simp only [octetOf_eq]
      cases one : isOctetJs first with
      | false => simp [one]
      | true =>
        cases two : isOctetJs second with
        | false => simp [two]
        | true =>
          cases three : isOctetJs third with
          | false => simp [three]
          | true => cases four : isOctetJs fourth <;> simp [one, two, three, four]
  · next other =>
      have differs : parts.length ≠ 4 := by
        intro four
        match parts, four with
        | [first, second, third, fourth], _ => exact other first second third fourth rfl
      simp [differs]

theorem isPrivate_eq (lowered : ∀ letter ∈ host, letter.isUpper = false) :
    isPrivate host = isPrivateJs host := by
  unfold isPrivate isPrivateJs
  rw [firstV6Group_eq lowered, dottedQuad_eq]
  cases firstGroupJs host <;> rfl

theorem lower_isUpper {text : List Char} : ∀ letter ∈ Chars.lower text, letter.isUpper = false := by
  intro letter member
  obtain ⟨letter, _, rfl⟩ := List.mem_map.mp member
  simp

theorem stripOpen_subset (host : List Char) : stripOpen host ⊆ host := by
  unfold stripOpen
  split
  · exact List.drop_subset 1 host
  · exact List.Subset.refl host

theorem stripClose_subset (host : List Char) : stripClose host ⊆ host := by
  unfold stripClose
  split
  · exact List.dropLast_subset host
  · exact List.Subset.refl host

theorem privateHostJs_eq [JsCase] (host : List Char) :
    privateHostJs host = isLoopbackOrPrivateHost host := by
  have blurred := stripClose_blurred (stripOpen_blurred (lowerAfter_blurred [] host))
  have lowered : ∀ letter ∈ stripClose (stripOpen (Chars.lower host)), letter.isUpper = false := by
    intro letter member
    exact lower_isUpper letter (stripOpen_subset _ (stripClose_subset _ member))
  calc
    privateHostJs host = isPrivateJs (stripClose (stripOpen (toLowerCase host))) := rfl
    _ = isPrivateJs (stripClose (stripOpen (Chars.lower host))) := isPrivateJs_congr blurred
    _ = isPrivate (stripClose (stripOpen (Chars.lower host))) := (isPrivate_eq lowered).symm
    _ = isLoopbackOrPrivateHost host := rfl

end VelaWallet.DappPermissions

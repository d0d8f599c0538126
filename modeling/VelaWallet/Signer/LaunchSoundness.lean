import Mathlib.Data.List.Induction
import VelaWallet.Signer.Launch

/-!
# Only the checked version of a page is opened

Whatever checks of a page ran before, a launch is at the address of one of them, after
which no other completed, and what that check saw vouches for the version in the address.
-/

namespace VelaWallet.TrustedSigner

open Json (Value)

variable {trusted blocked : List String} {version base : String}

def Vetted (trusted : List String) (version : String) : Prop :=
  version ∈ buildAllowed ∨ version ∈ trusted.filterMap normalizeHash

theorem vetted_of_contains
    (found : (contains buildAllowed version || contains trusted version) = true) :
    Vetted trusted version := by
  rw [Bool.or_eq_true] at found
  apply found.imp
  · intro shipped
    rw [← buildAllowed_normal]
    exact mem_of_contains shipped
  · exact mem_of_contains

theorem chooseVersion_ok {available : List String}
    (chosen : chooseVersion available trusted blocked = .ok version) :
    contains blocked version = false := by
  simp only [chooseVersion] at chosen
  split at chosen
  · next found =>
      cases chosen
      simpa using List.find?_some found
  · split at chosen <;> cases chosen

theorem chooseVersion_error {available : List String} {why : NoVersion}
    (none : chooseVersion available trusted blocked = .error why)
    (listed : version ∈ available.filterMap normalizeHash) (vetted : Vetted trusted version) :
    contains blocked version = true := by
  simp only [chooseVersion, buildAllowed_normal] at none
  split at none
  · cases none
  · next absent =>
      have blockedAll := List.find?_eq_none.mp absent version
        (List.mem_filter.mpr ⟨List.mem_append.mpr vetted, by simpa using listed⟩)
      simpa using blockedAll

structure Chosen (base : String) (trusted blocked : List String) (target : Target) : Prop where
  base_eq : target.base = baseOf base
  url_eq : target.url = pageUrl (baseOf base) target.version
  unblocked : contains blocked target.version = false
  proposal : target.proposed = true →
    isOfficial (baseOf base) = false ∧ ¬ Vetted (trustedFor (baseOf base) trusted) target.version

theorem Chosen.make
    {proposed : Bool} (unblocked : contains blocked version = false)
    (proposal : proposed = true → isOfficial (baseOf base) = false ∧
      ¬ Vetted (trustedFor (baseOf base) trusted) version) :
    Chosen base trusted blocked (Target.new (baseOf base) version proposed) where
  base_eq := Target.new_base ..
  url_eq := Target.new_url ..
  unblocked := unblocked
  proposal := proposal

theorem target_ok {index : Option (List String)}
    {chosen : Target} (found : target base index trusted blocked = .ok chosen) :
    Chosen base trusted blocked chosen := by
  unfold target at found
  dsimp only at found
  split at found
  · split at found
    · next usable =>
        obtain rfl := Except.ok.inj found
        exact .make (by simpa using List.find?_some usable) nofun
    · split at found <;> cases found
  · split at found
    · next usable =>
        obtain rfl := Except.ok.inj found
        exact .make (chooseVersion_ok usable) nofun
    · next failed =>
        split at found
        · cases found
        · next custom =>
            split at found
            · next proposed =>
                obtain rfl := Except.ok.inj found
                have unblocked := List.find?_some proposed
                have listed := List.mem_of_find?_eq_some proposed
                refine .make (by simpa using unblocked) fun _ => ⟨by simpa using custom, ?_⟩
                intro vetted
                have barred := chooseVersion_error failed listed vetted
                simp [barred] at unblocked
            · cases found

theorem decide_opens {page : Page} (opened : page.decide = .opens) :
    ∃ served, page.observed.bind normalizeHash = some served ∧
      contains page.blocked served = false ∧ Vetted page.trusted served := by
  simp only [Page.decide] at opened
  split at opened
  · cases opened
  · next served normal =>
      split at opened
      · cases opened
      · next unblocked =>
          split at opened
          · next found =>
              exact ⟨served, normal, by simpa using unblocked, vetted_of_contains found⟩
          · split at opened
            · cases opened
            · split at opened <;> cases opened

theorem decide_openUnverified {page : Page} (opened : page.decide = .openUnverified) :
    isOfficial page.url = false ∧ page.verificationOff = true ∧
      ∃ served, page.observed.bind normalizeHash = some served ∧
        contains page.blocked served = false := by
  simp only [Page.decide] at opened
  split at opened
  · cases opened
  · next served normal =>
      split at opened
      · cases opened
      · next unblocked =>
          split at opened
          · cases opened
          · split at opened
            · cases opened
            · next custom =>
                split at opened
                · next off =>
                    exact ⟨by simpa using custom, off, served, normal, by simpa using unblocked⟩
                · cases opened

structure Check where
  base : String
  index : Option (List String)
  trusted : List String
  blocked : List String
  target : Target
  chosen : TrustedSigner.target base index trusted blocked = .ok target
  observed : Option String
  failure : CheckFailure
  verificationOff : Bool
  checkedAtMs : Nat
  nowMs : Nat

def Check.admission (check : Check) : Admission :=
  check.target.admitPage check.observed check.failure check.trusted check.blocked
    check.verificationOff check.checkedAtMs

/-- The hash a check saw, in normal form. -/
def Check.served (check : Check) : Option String := check.observed.bind normalizeHash

def keptAfter (checks : List Check) : Option Admission :=
  checks.foldl (fun kept check => some (keepOrReplace kept check.admission check.nowMs)) none

variable (check : Check)

theorem Check.base_eq : check.target.base = baseOf check.base :=
  (target_ok check.chosen).base_eq

theorem Check.url_eq : check.target.url = pageUrl (baseOf check.base) check.target.version :=
  (target_ok check.chosen).url_eq

inductive CheckedPage.Launches [LaunchRuntime] (page : CheckedPage) (nowMs : Nat)
    (url : String) : Prop
  | url (request : Value) (callback token lang : String)
      (launched : page.urlLaunch request callback token lang nowMs = .ok url)
  | socket (port : UInt16) (token lang : String)
      (launched : page.wsLaunch port token lang nowMs = .ok url)

/-- A check vouches for an address opened at some clock. -/
structure Check.Vouches (check : Check) (nowMs : Nat) (url : String) : Prop where
  address : ∃ query, url = pageUrl (baseOf check.base) check.target.version ++ "?" ++ query
  fresh : nowMs - check.checkedAtMs ≤ maxCheckAgeMs
  unblocked : contains check.blocked check.target.version = false
  servedUnblocked : ∃ served, check.served = some served ∧ contains check.blocked served = false
  served : check.served = some check.target.version ∧ (check.target.version ∈ buildAllowed ∨
      isOfficial (baseOf check.base) = false ∧
        check.target.version ∈ check.trusted.filterMap normalizeHash) ∨
    check.verificationOff = true ∧ isOfficial (baseOf check.base) = false
  official : isOfficial (baseOf check.base) = true →
    check.served = some check.target.version ∧ check.target.version ∈ buildAllowed ∧
      check.target.proposed = false

theorem vetted_trustedFor
    (vetted : Vetted (trustedFor base trusted) version) :
    version ∈ buildAllowed ∨
      isOfficial base = false ∧ version ∈ trusted.filterMap normalizeHash := by
  apply vetted.imp_right
  intro member
  cases official : isOfficial base with
  | true => simp [trustedFor, official] at member
  | false => simpa [trustedFor, official] using member

/-- The page the decision on a check is made about. -/
def Check.page (check : Check) : Page where
  url := check.target.base
  observed := check.observed
  failure := check.failure
  trusted := trustedFor check.target.base check.trusted
  blocked := check.blocked
  verificationOff := check.verificationOff

@[simp] theorem Check.page_url : check.page.url = check.target.base := rfl

@[simp] theorem Check.page_blocked : check.page.blocked = check.blocked := rfl

@[simp] theorem Check.page_trusted :
    check.page.trusted = trustedFor check.target.base check.trusted := rfl

@[simp] theorem Check.page_served : check.page.observed.bind normalizeHash = check.served := rfl

def Check.verdict (check : Check) : Verdict :=
  check.target.verdict check.observed check.failure check.trusted check.blocked
    check.verificationOff

theorem Check.verdict_eq : check.verdict =
      if check.page.decide.isAboutVersion && check.served != some check.target.version then
        .refused (check.served.getD "") [check.target.version]
      else check.page.decide := rfl

theorem Check.verdict_opens {check : Check} (opened : check.verdict = .opens) :
    check.page.decide = .opens ∧ check.served = some check.target.version := by
  rw [Check.verdict_eq] at opened
  split at opened
  · cases opened
  · next same =>
      rw [opened] at same
      exact ⟨opened, by simpa [Verdict.isAboutVersion] using same⟩

theorem Check.verdict_openUnverified {check : Check} (opened : check.verdict = .openUnverified) :
    check.page.decide = .openUnverified := by
  rw [Check.verdict_eq] at opened
  split at opened
  · cases opened
  · exact opened

theorem Check.admitted {check : Check} {page : CheckedPage}
    (admitted : check.admission = .admitted page) :
    page.target = check.target ∧ page.checkedAtMs = check.checkedAtMs ∧
      (check.verdict = .opens ∨ check.verdict = .openUnverified) := by
  simp only [Check.admission, Target.admitPage, enforce, Bool.not_true, Bool.or_false] at admitted
  change (if check.verdict.admits = true then _ else _) = _ at admitted
  split at admitted
  · next admits =>
      cases admitted
      refine ⟨rfl, rfl, ?_⟩
      cases verdict : check.verdict with
      | opens => exact .inl rfl
      | openUnverified => exact .inr rfl
      | _ => simp [verdict, Verdict.admits] at admits
  · cases admitted

theorem CheckedPage.Launches.address [LaunchRuntime] {page : CheckedPage} {nowMs : Nat}
    {url : String} (launched : page.Launches nowMs url) :
    page.isFresh nowMs = true ∧ ∃ query, url = page.target.url ++ "?" ++ query := by
  cases launched with
  | url _ _ _ _ launched =>
    simp only [CheckedPage.urlLaunch] at launched
    split at launched
    · next fresh =>
        cases launched
        refine ⟨fresh, ?_⟩
        have mark : "?ch=url" = "?" ++ "ch=url" := by decide
        simp only [fragmentLaunch, mark, String.append_assoc]
        exact ⟨_, rfl⟩
    · cases launched
  | socket _ _ _ launched =>
    simp only [CheckedPage.wsLaunch] at launched
    split at launched
    · next fresh =>
        cases launched
        refine ⟨fresh, ?_⟩
        have mark : "?ch=ws" = "?" ++ "ch=ws" := by decide
        simp only [socketLaunch, mark, String.append_assoc]
        exact ⟨_, rfl⟩
    · cases launched

theorem keptAfter_append (earlier : List Check) (check : Check) :
    keptAfter (earlier ++ [check]) =
      some (keepOrReplace (keptAfter earlier) check.admission check.nowMs) := by
  simp [keptAfter]

theorem keepOrReplace_cases (previous : Option Admission) (next : Admission) (nowMs : Nat) :
    keepOrReplace previous next nowMs = next ∨
      next.incomplete = true ∧ previous = some (keepOrReplace previous next nowMs) := by
  cases previous with
  | none => exact .inl rfl
  | some =>
    simp only [keepOrReplace]
    split
    · next keeps =>
        simp only [keepsPrevious, Bool.and_eq_true] at keeps
        exact .inr ⟨keeps.1, rfl⟩
    · exact .inl rfl

theorem keptAfter_origin {checks : List Check} {admission : Admission}
    (kept : keptAfter checks = some admission) :
    ∃ earlier check later, checks = earlier ++ check :: later ∧ check.admission = admission ∧
      ∀ other ∈ later, other.admission.incomplete = true := by
  induction checks using List.reverseRecOn generalizing admission with
  | nil => cases kept
  | append_singleton before last ih =>
    rw [keptAfter_append] at kept
    obtain rfl := Option.some.inj kept
    cases keepOrReplace_cases (keptAfter before) last.admission last.nowMs with
    | inl replaced => exact ⟨before, last, [], rfl, replaced.symm, nofun⟩
    | inr stayed =>
      obtain ⟨earlier, check, later, rfl, same, after⟩ := ih stayed.2
      refine ⟨earlier, check, later ++ [last], by simp, same, ?_⟩
      intro other member
      cases List.mem_append.mp member with
      | inl among => exact after other among
      | inr final =>
        rw [List.mem_singleton.mp final]
        exact stayed.1

theorem Check.served_of_admitted {check : Check}
    (admits : check.verdict = .opens ∨ check.verdict = .openUnverified) :
    (check.served = some check.target.version ∧ (check.target.version ∈ buildAllowed ∨
        isOfficial (baseOf check.base) = false ∧
          check.target.version ∈ check.trusted.filterMap normalizeHash) ∨
      check.verificationOff = true ∧ isOfficial (baseOf check.base) = false) ∧
    ∃ served, check.served = some served ∧ contains check.blocked served = false := by
  cases admits with
  | inl opened =>
    obtain ⟨decided, same⟩ := Check.verdict_opens opened
    obtain ⟨served, normal, unblocked, vetted⟩ := decide_opens decided
    rw [Check.page_served] at normal
    rw [Check.page_blocked] at unblocked
    rw [Check.page_trusted] at vetted
    have named : served = check.target.version := Option.some.inj (normal.symm.trans same)
    subst named
    have vetted := vetted_trustedFor vetted
    rw [check.base_eq] at vetted
    exact ⟨.inl ⟨same, vetted⟩, _, same, unblocked⟩
  | inr unverified =>
    obtain ⟨custom, off, served⟩ := decide_openUnverified (Check.verdict_openUnverified unverified)
    rw [Check.page_url, check.base_eq] at custom
    rw [Check.page_served, Check.page_blocked] at served
    exact ⟨.inr ⟨off, custom⟩, served⟩

theorem Check.vouches [LaunchRuntime] {check : Check} {page : CheckedPage}
    (admitted : check.admission = .admitted page) {nowMs : Nat} {url : String}
    (launched : page.Launches nowMs url) : check.Vouches nowMs url := by
  obtain ⟨same, checkedAt, admits⟩ := Check.admitted admitted
  obtain ⟨fresh, query, rfl⟩ := launched.address
  obtain ⟨served, seen⟩ := Check.served_of_admitted admits
  have chosen := target_ok check.chosen
  have address : page.target.url = pageUrl (baseOf check.base) check.target.version := by
    rw [same, check.url_eq]
  constructor
  · rw [address]
    exact ⟨query, rfl⟩
  · simpa [CheckedPage.isFresh, isFreshAt, checkedAt] using fresh
  · exact chosen.unblocked
  · exact seen
  · exact served
  · intro official
    cases served with
    | inl verified =>
      refine ⟨verified.1, ?_, ?_⟩
      · cases verified.2 with
        | inl shipped => exact shipped
        | inr custom => simp [official] at custom
      · by_contra proposed
        have custom := (chosen.proposal (by simpa using proposed)).1
        simp [official] at custom
    | inr custom => simp [official] at custom

/-- Whatever checks ran before, the page a launch opens was admitted by one of them, which
vouches for the address it is opened at, and no check completed after that one. -/
theorem launches_as_checked [LaunchRuntime] (checks : List Check) (page : CheckedPage)
    (kept : keptAfter checks = some (.admitted page)) (nowMs : Nat) (url : String)
    (launched : page.Launches nowMs url) :
    ∃ earlier check later, checks = earlier ++ check :: later ∧
      check.admission = .admitted page ∧ check.Vouches nowMs url ∧
        ∀ other ∈ later, other.admission.incomplete = true := by
  obtain ⟨earlier, check, later, split, admitted, after⟩ := keptAfter_origin kept
  exact ⟨earlier, check, later, split, admitted, check.vouches admitted launched, after⟩

/-- A check of the official page that served the version this build asks for. -/
def officialCheck : Check where
  base := "sign.getvela.app"
  index := none
  trusted := []
  blocked := []
  target := Target.new "https://sign.getvela.app/" launch false
  chosen := by decide +kernel
  observed := some launch
  failure := .notChecked
  verificationOff := false
  checkedAtMs := 1000
  nowMs := 1000

/-- The same page, not reached a second time. -/
def offlineCheck : Check := { officialCheck with observed := none, failure := .unreachable, nowMs := 2000 }

/-- The page the two checks leave admitted. -/
def officialPage : CheckedPage := ⟨officialCheck.target, .opens, 1000⟩

theorem launches_as_checked_official :
    ∃ earlier check later, [officialCheck, offlineCheck] = earlier ++ check :: later ∧
      check.admission = .admitted officialPage ∧
      check.Vouches 3000 (socketLaunch officialPage.target.url 8140 "t" "en") ∧
        ∀ other ∈ later, other.admission.incomplete = true :=
  @launches_as_checked bareLaunch [officialCheck, offlineCheck] officialPage
    (by decide +kernel) 3000 _
    (@CheckedPage.Launches.socket bareLaunch _ _ _ 8140 "t" "en" (by decide +kernel))

end VelaWallet.TrustedSigner

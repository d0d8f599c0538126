import VelaWallet.Dapp.HandleSoundness

/-!
# The shell's alarms

The timers a dApp session keeps, one of each kind at most, beside the alarms that the shell was
asked to start, was not asked to cancel, and that have not fired.
-/

namespace VelaWallet.DappSession

variable {kind : TimerKind}

def Timers.at (timers : Timers) : TimerKind → Option Nat
  | .grace => timers.grace
  | .stuck => timers.stuck
  | .join => timers.join.map (·.1)
  | .deadline => timers.deadline
  | .dropIfDead => timers.dropDead.map (·.1)
  | .backoff => timers.backoff

def Timers.without (timers : Timers) : TimerKind → Timers
  | .grace => { timers with grace := none }
  | .stuck => { timers with stuck := none }
  | .join => { timers with join := none }
  | .deadline => { timers with deadline := none }
  | .dropIfDead => { timers with dropDead := none }
  | .backoff => { timers with backoff := none }

@[simp] theorem Timers.at_without_self (timers : Timers) (kind : TimerKind) :
    (timers.without kind).at kind = none := by
  cases kind <;> rfl

@[simp] theorem Timers.at_without_of_ne (timers : Timers) {other : TimerKind}
    (different : other ≠ kind) : (timers.without kind).at other = timers.at other := by
  cases kind <;> cases other <;> first | rfl | contradiction

@[simp] theorem Timers.at_none (kind : TimerKind) : ({} : Timers).at kind = none := by
  cases kind <;> rfl

structure Places (kind : TimerKind) (put : Nat → Timers → Timers) : Prop where
  self : ∀ id timers, (put id timers).at kind = some id
  other : ∀ id timers {other}, other ≠ kind → (put id timers).at other = timers.at other

theorem places_grace : Places .grace fun id timers => { timers with grace := some id } where
  self _ _ := rfl
  other _ _ other different := by cases other <;> first | rfl | contradiction

theorem places_stuck : Places .stuck fun id timers => { timers with stuck := some id } where
  self _ _ := rfl
  other _ _ other different := by cases other <;> first | rfl | contradiction

theorem places_join (sessionRef : Nat) :
    Places .join fun id timers => { timers with join := some (id, sessionRef) } where
  self _ _ := rfl
  other _ _ other different := by cases other <;> first | rfl | contradiction

theorem places_deadline :
    Places .deadline fun id timers => { timers with deadline := some id } where
  self _ _ := rfl
  other _ _ other different := by cases other <;> first | rfl | contradiction

theorem places_dropDead (sessionRef : Nat) :
    Places .dropIfDead fun id timers => { timers with dropDead := some (id, sessionRef) } where
  self _ _ := rfl
  other _ _ other different := by cases other <;> first | rfl | contradiction

theorem places_backoff : Places .backoff fun id timers => { timers with backoff := some id } where
  self _ _ := rfl
  other _ _ other different := by cases other <;> first | rfl | contradiction

/-- A timer that the shell runs, with the session that was live when it was started, and the spell
it was started in. -/
structure Alarm where
  id : Nat
  kind : TimerKind
  session : Option Nat
  spell : Nat

/-- The alarms without those of a number. -/
def silence (id : Nat) (alarms : List Alarm) : List Alarm :=
  alarms.filter (·.id != id)

def ring (session : Option Nat) (spell : Nat) (alarms : List Alarm) (request : Request) :
    List Alarm :=
  match request.2 with
  | .startTimer id kind _ => alarms ++ [⟨id, kind, session, spell⟩]
  | .cancelTimer id => silence id alarms
  | _ => alarms

/-- The alarms after the requests among effects. -/
def rings (session : Option Nat) (spell : Nat) (alarms : List Alarm)
    (effects : List DsessEffect) : List Alarm :=
  (requests effects).foldl (ring session spell) alarms

/-- What the alarms and the timers armed say of each other. -/
structure Synced (timers : Timers) (nextTimer : Nat) (alarms : List Alarm) : Prop where
  listed : ∀ {kind id}, timers.at kind = some id →
    ∃ alarm ∈ alarms, alarm.kind = kind ∧ alarm.id = id
  kept : ∀ alarm ∈ alarms, timers.at alarm.kind = some alarm.id
  numbered : ∀ alarm ∈ alarms, alarm.id < nextTimer
  ids : ∀ alarm ∈ alarms, ∀ other ∈ alarms, alarm.id = other.id → alarm.kind = other.kind
  kinds : (alarms.map (·.kind)).Nodup

section Alarms

variable {session : Option Nat} {spell : Nat} {alarms : List Alarm} {timers : Timers}
  {nextTimer : Nat} {model : Model}

@[simp] theorem rings_nil : rings session spell alarms [] = alarms := rfl

@[simp] theorem rings_append (effects more : List DsessEffect) :
    rings session spell alarms (effects ++ more) =
      rings session spell (rings session spell alarms effects) more := by
  simp [rings, requests]

@[simp] theorem rings_render : rings session spell alarms [.render] = alarms := rfl

@[simp] theorem rings_finish (ops : List DsessEffect) :
    rings session spell alarms (finish ops) = rings session spell alarms ops := by
  simp [finish]

@[simp] theorem rings_releaseOps (held : Option Nat) :
    rings session spell alarms (releaseOps model held) = alarms := by
  cases held <;> rfl

@[simp] theorem rings_req {operation : DsessOperation} {more : List DsessEffect} :
    rings session spell alarms (req model operation :: more) =
      rings session spell (ring session spell alarms (model.attempt, operation)) more := rfl

@[simp] theorem rings_pushWalletInfo :
    rings session spell alarms (pushWalletInfo model) = alarms := by
  unfold pushWalletInfo
  split <;> rfl

theorem mem_rings {effects : List DsessEffect} {alarm : Alarm}
    (member : alarm ∈ rings session spell alarms effects) :
    alarm ∈ alarms ∨ alarm.session = session ∧ alarm.spell = spell := by
  unfold rings at member
  generalize requests effects = asked at member
  induction asked generalizing alarms with
  | nil => exact .inl member
  | cons _ _ ih =>
    rcases ih member with early | new
    · unfold ring at early
      split at early
      case _ =>
        rcases List.mem_append.mp early with old | new
        · exact .inl old
        · cases List.mem_singleton.mp new
          exact .inr ⟨rfl, rfl⟩
      case _ => exact .inl (List.mem_of_mem_filter early)
      case _ => exact .inl early
    · exact .inr new

theorem Synced.init : Synced {} nextTimer [] where
  listed := by simp
  kept := nofun
  numbered := nofun
  ids := nofun
  kinds := List.nodup_nil

theorem Synced.silence {id : Nat} (synced : Synced timers nextTimer alarms)
    (armed : timers.at kind = some id) :
    Synced (timers.without kind) nextTimer (silence id alarms) where
  listed := by
    intro other number there
    have different : other ≠ kind := by
      rintro rfl
      simp at there
    rw [timers.at_without_of_ne different] at there
    obtain ⟨alarm, member, rfl, rfl⟩ := synced.listed there
    obtain ⟨own, own_member, rfl, own_id⟩ := synced.listed armed
    refine ⟨alarm, List.mem_filter.mpr ⟨member, ?_⟩, rfl, rfl⟩
    simp only [bne_iff_ne, ne_eq]
    intro same
    exact different (synced.ids alarm member own own_member (same.trans own_id.symm))
  kept := by
    intro alarm member
    obtain ⟨old, silent⟩ := List.mem_filter.mp member
    simp only [bne_iff_ne, ne_eq] at silent
    have there := synced.kept alarm old
    rw [timers.at_without_of_ne]
    · exact there
    · rintro rfl
      exact silent (Option.some.inj (there.symm.trans armed))
  numbered alarm member := synced.numbered alarm (List.mem_of_mem_filter member)
  ids alarm member other there :=
    synced.ids alarm (List.mem_of_mem_filter member) other (List.mem_of_mem_filter there)
  kinds := synced.kinds.sublist (List.filter_sublist.map _)

theorem silence_of_absent {id : Nat} (absent : ∀ alarm ∈ alarms, alarm.id ≠ id) :
    silence id alarms = alarms := by
  apply List.filter_eq_self.mpr
  intro alarm member
  simpa using absent alarm member

theorem Timers.without_of_none (unarmed : timers.at kind = none) :
    timers.without kind = timers := by
  obtain ⟨grace, stuck, join, deadline, dropDead, backoff⟩ := timers
  cases kind <;> simp_all [Timers.at, Timers.without]

theorem Synced.cancel (synced : Synced timers nextTimer alarms)
    {armed : Option Nat} (armed_eq : armed = timers.at kind) :
    Synced (timers.without kind) nextTimer
      (rings session spell alarms (cancelOps model armed)) := by
  subst armed_eq
  cases there : timers.at kind with
  | none =>
    rw [Timers.without_of_none there]
    exact synced
  | some => exact synced.silence there

theorem Synced.start {put : Nat → Timers → Timers}
    (synced : Synced timers nextTimer alarms) (places : Places kind put)
    (unarmed : timers.at kind = none) :
    Synced (put nextTimer timers) (nextTimer + 1)
      (alarms ++ [⟨nextTimer, kind, session, spell⟩]) where
  listed := by
    intro other id there
    by_cases same : other = kind
    · subst same
      rw [places.self] at there
      cases there
      exact ⟨_, List.mem_append_right _ (List.mem_singleton_self _), rfl, rfl⟩
    · rw [places.other _ _ same] at there
      obtain ⟨alarm, member, both⟩ := synced.listed there
      exact ⟨alarm, List.mem_append_left _ member, both⟩
  kept := by
    intro alarm member
    rcases List.mem_append.mp member with old | new
    · have there := synced.kept alarm old
      rw [places.other]
      · exact there
      · rintro rfl
        exact absurd (unarmed.symm.trans there) nofun
    · cases List.mem_singleton.mp new
      exact places.self _ _
  numbered := by
    intro alarm member
    rcases List.mem_append.mp member with old | new
    · exact Nat.lt_succ_of_lt (synced.numbered alarm old)
    · cases List.mem_singleton.mp new
      exact Nat.lt_succ_self _
  ids := by
    intro alarm member other there same
    rcases List.mem_append.mp member with old | new <;>
      rcases List.mem_append.mp there with old' | new'
    · exact synced.ids alarm old other old' same
    · cases List.mem_singleton.mp new'
      exact absurd same (Nat.ne_of_lt (synced.numbered alarm old))
    · cases List.mem_singleton.mp new
      exact absurd same.symm (Nat.ne_of_lt (synced.numbered other old'))
    · cases List.mem_singleton.mp new
      cases List.mem_singleton.mp new'
      rfl
  kinds := by
    rw [List.map_append, List.nodup_append]
    refine ⟨synced.kinds, by simp, ?_⟩
    intro listed old new there
    obtain ⟨alarm, member, rfl⟩ := List.mem_map.mp old
    simp only [List.map_cons, List.map_nil, List.mem_singleton] at there
    subst there
    intro same
    exact absurd ((same ▸ synced.kept alarm member).symm.trans unarmed) nofun

end Alarms

end VelaWallet.DappSession

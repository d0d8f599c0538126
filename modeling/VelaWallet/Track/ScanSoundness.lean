import VelaWallet.Track.ScanMoves
import VelaWallet.Track.VerdictSoundness

/-!
# What a scan has read

A scan says that blocks hold no event of its operation only where readings of its own life said so,
one window after the other.
-/

namespace VelaWallet.TxTracker

open Json (Value)

variable {number : Nat} {key : String}
theorem filter_eraseIdx_nil {α : Type} {keep : α → Bool} {list : List α} {index : Nat}
    (none_kept : list.filter keep = []) : (list.eraseIdx index).filter keep = [] := by
  rw [List.filter_eq_nil_iff] at none_kept ⊢
  exact fun item member => none_kept item (List.mem_of_mem_eraseIdx member)

theorem filter_eraseIdx_singleton {α : Type} {keep : α → Bool} {list : List α} {index : Nat}
    {item : α} (there : list[index]? = some item) (kept : keep item = true) {only : α}
    (single : list.filter keep = [only]) :
    item = only ∧ (list.eraseIdx index).filter keep = [] := by
  induction list generalizing index with
  | nil => cases there
  | cons head rest ih =>
    cases index with
    | zero =>
      cases there
      rw [List.filter_cons_of_pos kept] at single
      exact List.cons.inj single
    | succ =>
      rw [List.getElem?_cons_succ] at there
      by_cases head_kept : keep head = true
      · rw [List.filter_cons_of_pos head_kept] at single
        have none_more : rest.filter keep = [] := (List.cons.inj single).2
        have absent := List.filter_eq_nil_iff.mp none_more item (List.mem_of_getElem? there)
        exact absurd kept absent
      · rw [List.filter_cons_of_neg head_kept] at single
        obtain ⟨same, gone⟩ := ih there single
        refine ⟨same, ?_⟩
        rw [List.eraseIdx_cons_succ, List.filter_cons_of_neg head_kept]
        exact gone

section Tracker

variable {Time : Type} [TrackRuntime]

/-- The readings of one operation: how many lives its entry began, and the readings that are out,
with the life that asked for each; of the present life, where its scan started, the windows answered
with no event of the operation, and the highest head reported. -/
structure Readings where
  life : Nat
  out : List (Nat × Window)
  start : Option Nat
  clean : List (Nat × Nat)
  head : Option Nat

def higher (known reported : Option Nat) : Option Nat :=
  match reported with
  | none => known
  | some head => some (match known with
    | some known => max known head
    | none => head)

/-- An answer is a log array that holds no live event of the operation, readable or not. -/
def OpEventAnswer.holdsNone (answer : OpEventAnswer) (key : String) : Bool :=
  (answer.logsJson.bind logArray).any fun logs => logs.all (! isOwnEvent key ·)

namespace Readings

def initial : Readings := ⟨0, [], none, [], none⟩

/-- A block lies in a window that was answered with no event. -/
def Covers (readings : Readings) (block : Nat) : Prop :=
  ∃ window ∈ readings.clean, window.1 ≤ block ∧ block ≤ window.2

/-- A new life of the operation, with the readings of the earlier ones still out. -/
def renewed (readings : Readings) : Readings :=
  { readings with life := readings.life + 1, start := none, clean := [], head := none }

/-- What the answer to a window says of its blocks. -/
def cleaned (readings : Readings) (key : String) (window : Window) (answer : OpEventAnswer) :
    List (Nat × Nat) :=
  match window with
  | (some first, some last) =>
    if answer.holdsNone key then (first, last) :: readings.clean else readings.clean
  | _ => readings.clean

def answered (readings : Readings) (key : String) (number : Nat) (answer : OpEventAnswer) :
    Readings :=
  match readings.out[number]? with
  | none => readings
  | some (life, window) =>
    if life = readings.life then
      { readings with
        out := readings.out.eraseIdx number
        head := higher readings.head answer.headBlock
        clean := readings.cleaned key window answer }
    else { readings with out := readings.out.eraseIdx number }

/-- Where a scan starts is where it is first seen to. -/
def seen (readings : Readings) (start : Option Nat) : Readings :=
  { readings with start := readings.start <|> start }

def asking (readings : Readings) (windows : List Window) : Readings :=
  { readings with out := readings.out ++ windows.map (readings.life, ·) }

/-- The readings after one more event, where an answer of the chain is to the reading with the
given number. -/
def observe (key : String) (readings : Readings) (before : Model Time) (event : Event Time)
    (number : Nat) (after : Model Time) (effects : List TrackEffect) : Readings :=
  let readings := if Said.begins key before after then readings.renewed else readings
  let readings := match event with
    | .shellCompleted attempt (.opEvent userOpHash _ answer) =>
      if attempt = before.attempt ∧ normalize userOpHash = key then
        readings.answered key number answer
      else readings
    | _ => readings
  (readings.seen ((after.lookup key).bind (·.find.start))).asking (asks key effects)

end Readings

/-- The tracker and the readings of one operation, with the number of the reading that each answer
of the chain is to. -/
def scanTracker (Time : Type) [Clock Time] (key : String) :
    Process (Model Time × Readings) (Event Time × Nat) (List TrackEffect) where
  init := (.empty Time, .initial)
  step delivery state :=
    let (next, effects) := update state.1 delivery.1
    some ((next, state.2.observe key state.1 delivery.1 delivery.2 next effects), effects)

/-- An answer of the chain is to a reading that is out. -/
def delivers (key : String) (delivery : Event Time × Nat) (state : Model Time × Readings) : Bool :=
  match delivery.1 with
  | .shellCompleted _ (.opEvent userOpHash _ _) =>
    decide (normalize userOpHash ≠ key) || decide (delivery.2 < state.2.out.length)
  | _ => true

/-- Where a scan stands, by the readings of its life. -/
structure Scanned (entry : Entry Time) (readings : Readings) : Prop where
  started : readings.start = none ↔ entry.find.start = none
  unread : entry.find.start = none → entry.find.scannedThrough = none ∧
    entry.find.anchored = false ∧ entry.submitBlock = none
  head : entry.find.head = readings.head
  next : ∀ start, entry.find.start = some start →
    entry.find.scannedThrough = none ∧ readings.start = some start ∨
      ∃ through, entry.find.scannedThrough = some through ∧ start ≤ through + 1
  low : ∀ first start, readings.start = some first → entry.find.start = some start →
    first ≤ maxBlock → first ≤ start ∧ start ≤ maxBlock
  reached : ∀ first through, readings.start = some first →
    entry.find.scannedThrough = some through → first ≤ maxBlock → first ≤ through
  covered : ∀ first through, readings.start = some first →
    entry.find.scannedThrough = some through →
      ∀ block, first ≤ block → block ≤ through → readings.Covers block
  flight : readings.out.filter (·.1 = readings.life) =
    entry.find.inFlight.toList.map (readings.life, ·)
  flying : ∀ first last, entry.find.inFlight = some (some first, some last) →
    entry.find.start = some first ∧ (first ≤ maxBlock → first ≤ last)
  anchored : entry.find.anchored = true → ∀ block first, entry.submitBlock = some block →
    readings.start = some first → first ≤ block

omit [TrackRuntime] in
theorem window_some {scan : FindScan Time} {first last : Nat}
    (window : scan.window = (some first, some last)) :
    scan.start = some first ∧ (first ≤ maxBlock → first ≤ last) := by
  unfold FindScan.window FindScan.nextWindow at window
  cases head : scan.head with
  | none => simp [head] at window
  | some =>
    cases start : scan.start with
    | none => simp [head, start] at window
    | some =>
      simp only [head, start, Option.bind_eq_bind, Option.bind_some] at window
      split at window
      · cases window
      · next =>
          simp only [Option.map_some, Prod.mk.injEq, Option.some.injEq] at window
          obtain ⟨rfl, rfl⟩ := window
          refine ⟨rfl, fun bounded => ?_⟩
          omega

namespace Scanned

variable {before after : Entry Time} {readings : Readings}

section

variable (scanned : Scanned before readings)
include scanned

omit [TrackRuntime] in
theorem of_same (find : after.find = before.find)
    (submitBlock : after.submitBlock = before.submitBlock) : Scanned after readings := by
  obtain ⟨started, unread, head, next, low, reached, covered, flight, flying, anchored⟩ := scanned
  constructor
  all_goals rw [find]
  case unread => rw [submitBlock]; exact unread
  case anchored => rw [submitBlock]; exact anchored
  all_goals assumption

omit [TrackRuntime] in
theorem seen_eq :
    readings.seen before.find.start = readings := by
  unfold Readings.seen
  cases start : readings.start with
  | none =>
    rw [scanned.started.mp start]
    cases readings
    cases start
    rfl
  | some =>
    cases readings
    cases start
    rfl

omit [TrackRuntime] in
theorem of_paced {asked : List Window}
    (paced : Paced before after asked) : Scanned after (readings.asking asked) := by
  have progress := paced.progress
  simp only [FindScan.progress, Prod.mk.injEq] at progress
  obtain ⟨start, _, head, through, is_anchored⟩ := progress
  constructor
  case started =>
    rw [start]
    exact scanned.started
  case unread =>
    rw [start, through, is_anchored, paced.submitBlock]
    exact scanned.unread
  case head =>
    rw [head]
    exact scanned.head
  case next =>
    rw [start, through]
    exact scanned.next
  case low =>
    rw [start]
    exact scanned.low
  case reached =>
    rw [through]
    exact scanned.reached
  case covered =>
    rw [through]
    exact scanned.covered
  case flight =>
    have alone : (asked.map (readings.life, ·)).filter (·.1 = readings.life) =
        asked.map (readings.life, ·) := by
      rw [List.filter_eq_self]
      intro query member
      obtain ⟨_, _, rfl⟩ := List.mem_map.mp member
      simp
    unfold Readings.asking
    dsimp only
    rw [List.filter_append, scanned.flight, alone]
    rcases paced.flight with ⟨same, rfl⟩ | ⟨idle, flies, rfl⟩
    · rw [same, List.map_nil, List.append_nil]
    · rw [idle, flies]
      rfl
  case flying =>
    intro first last flies
    rw [start]
    rcases paced.flight with ⟨same, _⟩ | ⟨_, flies_now, _⟩
    · exact scanned.flying first last (same.symm.trans flies)
    · rw [flies_now] at flies
      exact window_some (Option.some.inj flies)
  case anchored =>
    rw [is_anchored, paced.submitBlock]
    exact scanned.anchored

theorem taken (key : String) (window : Window)
    (answer : OpEventAnswer) {out : List (Nat × Window)}
    (none_out : out.filter (·.1 = readings.life) = []) :
    Scanned (before.taken answer) { readings with
      out := out, head := higher readings.head answer.headBlock
      clean := readings.cleaned key window answer } := by
  have find : (before.taken answer).find =
      { before.find with inFlight := none, head := higher before.find.head answer.headBlock } := by
    unfold Entry.taken Entry.noteHead
    cases answer.headBlock <;> rfl
  have submitBlock := (taken_facts before answer).2.1
  have more : ∀ block, readings.Covers block → Readings.Covers { readings with
      out := out, head := higher readings.head answer.headBlock
      clean := readings.cleaned key window answer } block := by
    rintro block ⟨read, member, inside⟩
    refine ⟨read, ?_, inside⟩
    dsimp only
    unfold Readings.cleaned
    split
    · split
      · exact List.mem_cons_of_mem _ member
      · exact member
    · exact member
  constructor
  all_goals rw [find]
  case started => exact scanned.started
  case unread =>
    rw [submitBlock]
    exact scanned.unread
  case head =>
    dsimp only
    rw [scanned.head]
  case next => exact scanned.next
  case low => exact scanned.low
  case reached => exact scanned.reached
  case covered =>
    exact fun first through started read block above below =>
      more block (scanned.covered first through started read block above below)
  case flight => exact none_out
  case flying => exact nofun
  case anchored =>
    rw [submitBlock]
    exact scanned.anchored

omit [TrackRuntime] in
theorem readThrough (idle : before.find.inFlight = none)
    {first last : Nat} (stands : before.find.start = some first)
    (wide : first ≤ maxBlock → first ≤ last) (clean : (first, last) ∈ readings.clean) :
    Scanned (before.readThrough first last) readings := by
  have begun : ∃ start, readings.start = some start := by
    cases started : readings.start with
    | none =>
      have unread := scanned.started.mp started
      rw [stands] at unread
      cases unread
    | some start => exact ⟨start, rfl⟩
  obtain ⟨start, started⟩ := begun
  have joined : ∀ block, start ≤ block → block ≤ last → readings.Covers block := by
    intro block above below
    rcases scanned.next first stands with ⟨_, same⟩ | ⟨through, read, near⟩
    · rw [started] at same
      cases same
      exact ⟨_, clean, above, below⟩
    · by_cases earlier : block ≤ through
      · exact scanned.covered start through started read block above earlier
      · exact ⟨_, clean, by dsimp only; omega, below⟩
  constructor
  case started =>
    rw [started]
    simp [Entry.readThrough]
  case unread => exact nofun
  case head => exact scanned.head
  case next =>
    intro next is_next
    cases is_next
    refine .inr ⟨last, rfl, ?_⟩
    omega
  case low =>
    intro lowest next is_start is_next bounded
    cases is_next
    rw [started] at is_start
    cases is_start
    obtain ⟨low, high⟩ := scanned.low start first started stands bounded
    have := wide high
    omega
  case reached =>
    intro lowest through is_start is_through bounded
    cases is_through
    rw [started] at is_start
    cases is_start
    obtain ⟨low, high⟩ := scanned.low start first started stands bounded
    exact low.trans (wide high)
  case covered =>
    intro lowest through is_start is_through
    cases is_through
    rw [started] at is_start
    cases is_start
    exact joined
  case flight => exact scanned.flight
  case flying =>
    intro from_block to_block flies
    have none_flies : before.find.inFlight = some (some from_block, some to_block) := flies
    rw [idle] at none_flies
    cases none_flies
  case anchored => exact scanned.anchored

omit [TrackRuntime] in
theorem narrowed (width : Nat) :
    Scanned { before with find.width := width } readings :=
  { scanned with }

omit [TrackRuntime] in
theorem begun (unstarted : before.find.start = none)
    (idle : before.find.inFlight = none) (lowest : Nat) (reaches : Bool) :
    Scanned { before with find.start := some lowest, find.anchored := reaches }
      (readings.seen (some lowest)) := by
  have fresh : readings.start = none := scanned.started.mpr unstarted
  obtain ⟨unread, _, unknown⟩ := scanned.unread unstarted
  unfold Readings.seen
  rw [fresh]
  constructor
  case started => simp
  case unread => exact nofun
  case head => exact scanned.head
  case next => exact fun start is_start => .inl ⟨unread, is_start⟩
  case low =>
    intro first start is_first is_start bounded
    have same : some first = some start := is_first.symm.trans is_start
    rw [Option.some.inj same] at bounded ⊢
    exact ⟨Nat.le_refl _, bounded⟩
  case reached | covered =>
    intro first through _ read
    have none_read : before.find.scannedThrough = some through := read
    rw [unread] at none_read
    cases none_read
  case flight => exact scanned.flight
  case flying =>
    intro from_block to_block flies
    have none_flies : before.find.inFlight = some (some from_block, some to_block) := flies
    rw [idle] at none_flies
    cases none_flies
  case anchored =>
    intro _ block first known
    have none_known : before.submitBlock = some block := known
    rw [unknown] at none_known
    cases none_known

omit [TrackRuntime] in
theorem anchorScan [Clock Time]
    (idle : before.find.inFlight = none) (nowMs : Time) :
    Scanned (before.anchorScan nowMs) (readings.seen (before.anchorScan nowMs).find.start) := by
  unfold Entry.anchorScan
  split
  · next unstarted _ => exact scanned.begun unstarted idle _ _
  · rw [scanned.seen_eq]
    exact scanned

end

end Scanned

/-- A submit block that an entry learns lies at or above an anchored scan's start. -/
def Entry.learns (entry : Entry Time) (start block : Option Nat) : Bool :=
  entry.submitBlock.isSome || !entry.find.anchored ||
    block.all fun block => start.all fun start => decide (start ≤ block)

omit [TrackRuntime] in
theorem Scanned.merge {entry : Entry Time} {readings : Readings}
    (scanned : Scanned entry readings) (maybeSent : Bool) {block : Option Nat}
    (learns : entry.learns readings.start block = true) :
    Scanned (entry.mergeSubmitFacts maybeSent block)
      (readings.seen (entry.mergeSubmitFacts maybeSent block).find.start) := by
  unfold Entry.mergeSubmitFacts
  dsimp only
  split
  · next unknown =>
      split
      · next fresh =>
          have unseen : readings.start = none := scanned.started.mpr fresh.1
          have grounded : ∀ first last, entry.find.inFlight ≠ some (some first, some last) := by
            intro first last flies
            have stands := (scanned.flying first last flies).1
            rw [fresh.1] at stands
            cases stands
          unfold Readings.seen
          rw [unseen]
          constructor
          case started => simp
          case unread =>
            intro none_learned
            have nothing : block = none := none_learned
            exact ⟨fresh.2, by rw [nothing]; rfl, nothing⟩
          case head => exact scanned.head
          case next =>
            intro start is_start
            exact .inl ⟨fresh.2, is_start⟩
          case low =>
            intro first start is_first is_start bounded
            have same : some first = some start := is_first.symm.trans is_start
            rw [Option.some.inj same] at bounded ⊢
            exact ⟨Nat.le_refl _, bounded⟩
          case reached | covered =>
            intro first through _ read
            have none_read : entry.find.scannedThrough = some through := read
            rw [fresh.2] at none_read
            cases none_read
          case flight => exact scanned.flight
          case flying => exact fun first last flies => absurd flies (grounded first last)
          case anchored =>
            intro _ learned first is_learned is_first
            have same : some learned = some first := is_learned.symm.trans is_first
            exact (Option.some.inj same).ge
      · next begun =>
          have same : readings.seen entry.find.start = readings := scanned.seen_eq
          rw [show readings.seen _ = readings from same]
          have standing : entry.find.start ≠ none := by
            intro unstarted
            exact begun ⟨unstarted, (scanned.unread unstarted).1⟩
          refine { scanned with
            unread := fun unstarted => absurd unstarted standing, anchored := ?_ }
          intro is_anchored learned first is_learned is_first
          have block_is : block = some learned := is_learned
          have anchors : entry.find.anchored = true := is_anchored
          simpa [Entry.learns, unknown, anchors, block_is, is_first] using learns
  · have same : readings.seen entry.find.start = readings := scanned.seen_eq
    rw [show readings.seen _ = readings from same]
    exact { scanned with }

omit [TrackRuntime] in
theorem Scanned.merge_none {entry : Entry Time} {readings : Readings}
    (scanned : Scanned entry readings) (maybeSent : Bool) :
    (entry.mergeSubmitFacts maybeSent none).find.start = entry.find.start ∧
      (entry.mergeSubmitFacts maybeSent none).find.anchored = entry.find.anchored := by
  unfold Entry.mergeSubmitFacts
  dsimp only
  split
  · split
    · next fresh => exact ⟨fresh.1.symm, (scanned.unread fresh.1).2.1.symm⟩
    · exact ⟨rfl, rfl⟩
  · exact ⟨rfl, rfl⟩

section Runs

variable [Clock Time]

/-- The submit block that reloaded records teach an operation's entry. -/
def firstBlock (key : String) (records : List (TrackPendingRecord Time)) : Option Nat :=
  records.findSome? fun record =>
    if normalize record.userOpHash = key then record.submitBlock else none

/-- An answer of the chain holds no live event of the operation that cannot be read, unless it holds
one that can. -/
def OpEventAnswer.readsEvents (answer : OpEventAnswer) (key : String) : Bool :=
  (answer.logsJson.bind logArray).all fun logs =>
    (findInLogArray logs key).isSome || logs.all (! isOwnEvent key ·)

/-- An answer is taken for the reading it is to, its events can be read, and no submit block is
learned from below the scan. -/
def answeredInTurn (key : String) (delivery : Event Time × Nat) (state : Model Time × Readings) :
    Bool :=
  delivers key delivery state &&
    match delivery.1 with
    | .shellCompleted attempt (.opEvent userOpHash _ answer) =>
      attempt != state.1.attempt || normalize userOpHash != key ||
        (state.1.lookup key).all fun entry => entry.find.inFlight.isNone ||
          state.2.out[delivery.2]?.any fun query => query.1 = state.2.life &&
            (entry.status.isTerminal || query.2.1.isNone || answer.readsEvents key)
    | .submitted submission => normalize submission.userOpHash != key ||
        (submission.joins state.1).all fun entry =>
          entry.learns state.2.start submission.submitBlock
    | .shellCompleted attempt (.recordsLoaded records nowMs) =>
      attempt != state.1.attempt || (state.1.lookup key).all fun entry =>
        entry.learns state.2.start (firstBlock key (records.filter (·.isFollowed nowMs)))
    | _ => true

/-- Where all scans stand, and which readings are out. -/
structure ScansAt (key : String) (model : Model Time) (readings : Readings) : Prop where
  sorted : model.Sorted
  past : ∀ query ∈ readings.out, query.1 ≤ readings.life
  scanned : ∀ entry, model.lookup key = some entry → Scanned entry readings

/-- An answer to a window says nothing of the operation where its events can be read and none is
found. -/
theorem holdsNone_of_nothing {answer : OpEventAnswer} {logsJson : String}
    (given : answer.logsJson = some logsJson) (nothing : findInLogs logsJson key = .nothing)
    (reads : answer.readsEvents key = true) : answer.holdsNone key = true := by
  unfold OpEventAnswer.readsEvents at reads
  unfold OpEventAnswer.holdsNone
  unfold findInLogs at nothing
  rw [given, Option.bind_some] at reads ⊢
  cases read : logArray logsJson with
  | none =>
    rw [read] at nothing
    cases nothing
  | some logs =>
    simp only [read] at nothing
    cases found : findInLogArray logs key with
    | some =>
      rw [found] at nothing
      cases nothing
    | none =>
      rw [read] at reads
      simpa [found] using reads

variable {readings : Readings}

theorem scanned_answered {entry after : Entry Time}
    {nowMs : Time} {answer : OpEventAnswer} {more : List Window}
    (scanned : Scanned entry readings) (delivered : number < readings.out.length)
    (inTurn : (entry.find.inFlight.isNone || readings.out[number]?.any fun query =>
      query.1 = readings.life &&
        (entry.status.isTerminal || query.2.1.isNone || answer.readsEvents key)) = true)
    (move : ScanMove key nowMs answer entry after more) :
    Scanned after (((readings.answered key number answer).seen after.find.start).asking more) := by
  have there : readings.out[number]? = some readings.out[number] :=
    List.getElem?_eq_getElem delivered
  generalize readings.out[number] = query at there
  obtain ⟨life, window⟩ := query
  -- an answer that comes while a reading of this life is out is to that reading
  have mine : ∀ asked, entry.find.inFlight = some asked → life = readings.life ∧
      window = asked ∧ (readings.out.eraseIdx number).filter (·.1 = readings.life) = [] ∧
      (entry.status.isTerminal || window.1.isNone || answer.readsEvents key) = true := by
    intro asked flies
    rw [flies, there] at inTurn
    simp only [Option.isNone_some, Bool.false_or, Option.any_some, Bool.and_eq_true,
      decide_eq_true_eq] at inTurn
    have flight := scanned.flight
    rw [flies] at flight
    obtain ⟨same, gone⟩ := filter_eraseIdx_singleton there (by simpa using inTurn.1) flight
    cases same
    exact ⟨rfl, rfl, gone, inTurn.2⟩
  have answered : ∀ asked, entry.find.inFlight = some asked →
      readings.answered key number answer = { readings with
        out := readings.out.eraseIdx number
        head := higher readings.head answer.headBlock
        clean := readings.cleaned key asked answer } := by
    intro asked flies
    obtain ⟨same, rfl, _⟩ := mine asked flies
    unfold Readings.answered
    simp only [there, if_pos same]
  have taken : ∀ asked, entry.find.inFlight = some asked →
      Scanned (entry.taken answer) (readings.answered key number answer) := by
    intro asked flies
    rw [answered asked flies]
    exact scanned.taken key asked answer (mine asked flies).2.2.1
  have idle := (taken_facts entry answer).1
  have continues : ∀ {next : Entry Time} {asked : List Window},
      Scanned next ((readings.answered key number answer).seen next.find.start) →
      Paced next after asked →
      Scanned after
        (((readings.answered key number answer).seen after.find.start).asking asked) := by
    intro next asked standing paced
    have progress := paced.progress
    simp only [FindScan.progress, Prod.mk.injEq] at progress
    rw [progress.1]
    exact standing.of_paced paced
  cases move with
  | unasked unasked =>
    have nothing : readings.answered key number answer =
        { readings with out := readings.out.eraseIdx number } := by
      unfold Readings.answered
      have flight := scanned.flight
      rw [unasked] at flight
      have other : life ≠ readings.life := by
        intro same
        have kept := List.filter_eq_nil_iff.mp flight _ (List.mem_of_getElem? there)
        simp [same] at kept
      simp only [there, if_neg other]
    have flight : (readings.out.eraseIdx number).filter (·.1 = readings.life) = [] := by
      apply filter_eraseIdx_nil
      have flight := scanned.flight
      rw [unasked] at flight
      exact flight
    apply continues _ (.refl entry)
    rw [nothing]
    have same : Scanned entry { readings with out := readings.out.eraseIdx number } :=
      { scanned with flight := by rw [unasked]; exact flight }
    rw [same.seen_eq]
    exact same
  | @still asked _ flying find submitBlock =>
    have standing := (taken asked flying).of_same find
      (submitBlock.trans (taken_facts entry answer).2.1.symm)
    apply continues _ (.refl after)
    rw [standing.seen_eq]
    exact standing
  | @read first last logsJson _ _ flying live given nothing paced =>
    obtain ⟨_, is_window, _, reads⟩ := mine _ flying
    have holds : answer.holdsNone key = true := by
      apply holdsNone_of_nothing given nothing
      rw [is_window] at reads
      simpa [live] using reads
    obtain ⟨stands, wide⟩ := scanned.flying first last flying
    have start : (entry.taken answer).find.start = some first := by
      unfold Entry.taken Entry.noteHead
      cases answer.headBlock <;> exact stands
    have clean : (first, last) ∈ (readings.answered key number answer).clean := by
      rw [answered _ flying]
      simp [Readings.cleaned, holds]
    have standing := (taken _ flying).readThrough idle start wide clean
    apply continues _ paced
    rw [standing.seen_eq]
    exact standing
  | @narrowed asked width _ _ flying paced =>
    have standing := (taken asked flying).narrowed width
    apply continues _ paced
    rw [standing.seen_eq]
    exact standing
  | @anchored asked _ _ flying paced =>
    exact continues ((taken asked flying).anchorScan idle nowMs) paced

def StandsAt (key : String) (model : Model Time) (readings : Readings) : Prop :=
  ∀ entry, model.lookup key = some entry → Scanned entry (readings.seen entry.find.start)

variable {entry : Entry Time}

omit [TrackRuntime] [Clock Time] in
theorem learns_of_isSome {start block : Option Nat}
    (known : entry.submitBlock.isSome = true) : entry.learns start block = true := by
  simp [Entry.learns, known]

omit [TrackRuntime] [Clock Time] in
theorem mergeSubmitFacts_submitBlock (entry : Entry Time) (maybeSent : Bool) (block : Option Nat) :
    (entry.mergeSubmitFacts maybeSent block).submitBlock = (entry.submitBlock <|> block) := by
  unfold Entry.mergeSubmitFacts
  dsimp only
  split
  · next unknown =>
      rw [unknown]
      split <;> rfl
  · next known =>
      cases submitBlock : entry.submitBlock with
      | none => exact absurd submitBlock known
      | some => simp

omit [TrackRuntime] [Clock Time] in
theorem seen_seen (readings : Readings) (first second : Option Nat) :
    (readings.seen first).seen second = readings.seen (first <|> second) := by
  unfold Readings.seen
  cases readings.start <;> cases first <;> rfl

omit [TrackRuntime] [Clock Time] in
theorem mergeSubmitFacts_start (entry : Entry Time) (maybeSent : Bool) (block : Option Nat) :
    (entry.find.start <|> (entry.mergeSubmitFacts maybeSent block).find.start) =
      (entry.mergeSubmitFacts maybeSent block).find.start := by
  unfold Entry.mergeSubmitFacts
  dsimp only
  split
  · split
    · next fresh =>
        rw [fresh.1]
        rfl
    · dsimp only
      cases entry.find.start <;> rfl
  · dsimp only
    cases entry.find.start <;> rfl

/-- Nothing was read for an operation whose life begins. -/
structure Readings.Fresh (readings : Readings) : Prop where
  start : readings.start = none
  head : readings.head = none
  out : readings.out.filter (·.1 = readings.life) = []

omit [TrackRuntime] [Clock Time] in
theorem scanned_new (fresh : readings.Fresh)
    {submittedAtMs : Option Time} (find : entry.find = .new none submittedAtMs)
    (submitBlock : entry.submitBlock = none) : Scanned entry readings := by
  constructor
  all_goals rw [find]
  case started => exact ⟨fun _ => rfl, fun _ => fresh.start⟩
  case unread => exact fun _ => ⟨rfl, rfl, submitBlock⟩
  case head => exact fresh.head.symm
  case flight => exact fresh.out
  all_goals exact nofun

omit [Clock Time] in
theorem mergeSender_scan (entry : Entry Time) (sender : Option String) :
    (entry.mergeSender sender).find = entry.find ∧
      (entry.mergeSender sender).submitBlock = entry.submitBlock := by
  unfold Entry.mergeSender
  split <;> exact ⟨rfl, rfl⟩

omit [TrackRuntime] [Clock Time] in
theorem mergeRecordId_scan (entry : Entry Time) (id : String) :
    (entry.mergeRecordId id).find = entry.find ∧
      (entry.mergeRecordId id).submitBlock = entry.submitBlock := by
  unfold Entry.mergeRecordId
  split <;> exact ⟨rfl, rfl⟩

omit [TrackRuntime] [Clock Time] in
theorem mergeSubmitFacts_congr {entry other : Entry Time} (find : entry.find = other.find)
    (submitBlock : entry.submitBlock = other.submitBlock) (maybeSent : Bool) (block : Option Nat) :
    (entry.mergeSubmitFacts maybeSent block).find =
        (other.mergeSubmitFacts maybeSent block).find ∧
      (entry.mergeSubmitFacts maybeSent block).submitBlock =
        (other.mergeSubmitFacts maybeSent block).submitBlock := by
  unfold Entry.mergeSubmitFacts
  dsimp only
  rw [find, submitBlock]
  split
  · split <;> exact ⟨by simp, rfl⟩
  · exact ⟨rfl, rfl⟩

omit [Clock Time] in
theorem lookup_load_scan (model : Model Time) (record : TrackPendingRecord Time) :
    ∃ next, (model.load record).lookup (normalize record.userOpHash) = some next ∧
      next.find = ((record.base model).mergeSubmitFacts record.maybeSent record.submitBlock).find ∧
      next.submitBlock =
        ((record.base model).mergeSubmitFacts record.maybeSent record.submitBlock).submitBlock := by
  obtain ⟨find, submitBlock⟩ := mergeRecordId_scan (record.base model) record.recordId
  obtain ⟨merged, same⟩ :=
    mergeSubmitFacts_congr find submitBlock record.maybeSent record.submitBlock
  refine ⟨_, lookup_put_self _ _ _, ?_, ?_⟩
  · exact (mergeSender_scan _ _).1.trans merged
  · exact (mergeSender_scan _ _).2.trans same

variable {model : Model Time}

omit [Clock Time] in
theorem standsAt_loads (records : List (TrackPendingRecord Time))
    (stands : StandsAt key model readings)
    (fresh : model.lookup key = none → readings.Fresh)
    (learns : ∀ entry, model.lookup key = some entry →
      entry.learns (readings.seen entry.find.start).start (firstBlock key records) = true) :
    StandsAt key (records.foldl Model.load model) readings := by
  induction records generalizing model with
  | nil => exact stands
  | cons record records ih =>
    rw [List.foldl_cons]
    by_cases same : normalize record.userOpHash = key
    · obtain ⟨next, found, find, submitBlock⟩ := lookup_load_scan model record
      rw [same] at found
      have base : Scanned (record.base model)
            (readings.seen (record.base model).find.start) ∧
          (record.base model).learns (readings.seen (record.base model).find.start).start
            (firstBlock key (record :: records)) = true := by
        unfold TrackPendingRecord.base
        rw [same]
        cases there : model.lookup key with
        | none =>
          have begins : readings.seen
              (Entry.new record.chainId (some record.submittedAtMs)).find.start = readings := by
            have start := (fresh there).start
            cases readings
            cases start
            rfl
          simp only [Option.getD_none]
          rw [begins]
          exact ⟨scanned_new (fresh there) rfl rfl, rfl⟩
        | some entry => exact ⟨stands entry there, learns entry there⟩
      obtain ⟨scanned, teaches⟩ := base
      generalize record.base model = base at find submitBlock scanned teaches
      have first : firstBlock key (record :: records) =
          (record.submitBlock <|> firstBlock key records) := by
        unfold firstBlock
        rw [List.findSome?_cons, if_pos same]
        cases record.submitBlock <;> rfl
      rw [first] at teaches
      have now : base.learns (readings.seen base.find.start).start record.submitBlock = true := by
        cases block : record.submitBlock with
        | none => simp [Entry.learns]
        | some block =>
          rw [block] at teaches
          exact teaches
      have merged := scanned.merge record.maybeSent now
      rw [seen_seen, mergeSubmitFacts_start, ← find] at merged
      have standing := merged.of_same find submitBlock
      have only : ∀ other, (model.load record).lookup key = some other → other = next := by
        intro other same
        rw [found] at same
        exact (Option.some.inj same).symm
      apply ih
      · intro other found_other
        rw [only other found_other]
        exact standing
      · intro gone
        rw [found] at gone
        cases gone
      · intro other found_other
        rw [only other found_other]
        rw [mergeSubmitFacts_submitBlock] at submitBlock
        cases block : record.submitBlock with
        | some block =>
          rw [block] at submitBlock
          apply learns_of_isSome
          rw [submitBlock]
          cases base.submitBlock <;> rfl
        | none =>
          rw [block] at submitBlock teaches find
          have kept : next.submitBlock = base.submitBlock := by
            rw [submitBlock]
            cases base.submitBlock <;> rfl
          obtain ⟨start, anchored⟩ := scanned.merge_none record.maybeSent
          rw [← find] at start anchored
          unfold Entry.learns at teaches ⊢
          rw [kept, start, anchored]
          exact teaches
    · apply ih
      · intro entry found
        rw [lookup_load_other model record same] at found
        exact stands entry found
      · intro gone
        rw [lookup_load_other model record same] at gone
        exact fresh gone
      · intro entry found
        rw [lookup_load_other model record same] at found
        have first : firstBlock key (record :: records) = firstBlock key records := by
          unfold firstBlock
          rw [List.findSome?_cons, if_neg same]
        rw [← first]
        exact learns entry found

/-! ### Every event -/

omit [Clock Time] in
theorem sorted_withdrawn (sorted : model.Sorted) (userOpHash : String)
    (recordIds : List String) : (withdrawn model userOpHash recordIds).Sorted := by
  unfold withdrawn
  dsimp only
  split
  · exact sorted
  · split
    · exact sorted.put _ _
    · split
      · exact Keyed.Sorted.erase sorted _
      · exact sorted.put _ _

omit [TrackRuntime] in
theorem sorted_runScheduler (sorted : model.Sorted) (nowMs : Time) :
    (runScheduler model nowMs).1.Sorted := by
  unfold runScheduler
  dsimp only
  have entries := (entries_reconcile model nowMs).1
  have same : (reconcile model nowMs).1.Sorted := by
    unfold Model.Sorted
    rw [entries]
    exact sorted
  exact Keyed.Sorted.mapValues same fun hash entry => (entry.schedule hash nowMs).1

theorem sorted_answer (sorted : model.Sorted) (userOpHash : String)
    (nowMs : Time) (absent : Next) (handle : String → Entry Time → Entry Time × Next) :
    (model.answer userOpHash nowMs absent handle).1.Sorted := by
  unfold Model.answer
  dsimp only
  cases model.lookup (normalize userOpHash) with
  | none =>
    cases absent with
    | reply => exact sorted
    | schedule => exact sorted_runScheduler sorted nowMs
  | some entry =>
    have put := sorted.put (normalize userOpHash) (handle (normalize userOpHash) entry).1
    dsimp only
    cases (handle (normalize userOpHash) entry).2 with
    | reply => exact put
    | schedule => exact sorted_runScheduler put nowMs

omit [Clock Time] in
theorem sorted_load (records : List (TrackPendingRecord Time)) (sorted : model.Sorted) :
    (records.foldl Model.load model).Sorted := by
  induction records generalizing model with
  | nil => exact sorted
  | cons _ _ ih => exact ih (sorted.put _ _)

theorem sorted_update (sorted : model.Sorted) (event : Event Time) :
    (update model event).1.Sorted := by
  cases event with
  | submitted => exact sorted.put _ _
  | withdrawn userOpHash recordIds => exact sorted_withdrawn sorted userOpHash recordIds
  | tick =>
    simp only [update]
    split <;> exact sorted
  | appResumed | homeFocused => exact sorted
  | abort =>
    simp only [update, abort]
    split
    · exact sorted
    · split
      · exact sorted
      · exact sorted.put _ _
  | shellCompleted _ result =>
    simp only [update]
    split
    · cases result with
      | recordsPatched | notified => exact sorted
      | clock nowMs => exact sorted_runScheduler (sorted_stampUnstamped sorted nowMs) nowMs
      | recordsLoaded records nowMs =>
        have stamped : Model.Sorted
            { stampUnstamped model nowMs with reconcileInFlight := false } :=
          sorted_stampUnstamped sorted nowMs
        exact sorted_runScheduler (sorted_load _ stamped) nowMs
      | receiptWithLogs _ _ nowMs =>
        rw [accept_receiptWithLogs]
        exact sorted_answer (sorted_stampUnstamped sorted nowMs) _ _ _ _
      | receipt userOpHash txHash nowMs | receiptFailed userOpHash txHash nowMs
      | receiptPending userOpHash nowMs | receiptUnreachable userOpHash nowMs
      | status userOpHash answer nowMs | statusUnavailable userOpHash nowMs
      | opEvent userOpHash nowMs answer | txReceipt userOpHash nowMs receiptJson =>
        exact sorted_answer (sorted_stampUnstamped sorted nowMs) _ _ _ _
    · exact sorted

omit [Clock Time] in
theorem asks_submitted (key : String) (model : Model Time) (submission : Submission) :
    asks key (submitted model submission).2 = [] := by
  have effects : (submitted model submission).2 = .shell .now ::
      (if (submission.entry model).pollsNow then
        [.shell (.pollReceipt (normalize submission.userOpHash) submission.chainId)] else []) ++
      ((submission.entry model).latePatch (submission.named model)).toList.map
        (fun patch => .shell (.updateTxRecords (submission.named model) patch)) ++ [.render] := rfl
  rw [effects]
  cases (submission.entry model).latePatch (submission.named model) <;>
    cases (submission.entry model).pollsNow <;> rfl

omit [Clock Time] in
theorem pacedAt_abort (key : String) (model : Model Time) (userOpHash : String) :
    PacedAt key model (abort model userOpHash) [] := by
  unfold abort
  dsimp only
  split
  · exact .of_eq rfl
  · next found =>
      split
      · exact .of_eq rfl
      · by_cases same : normalize userOpHash = key
        · subst same
          constructor
          case absent =>
            intro absent
            rw [found] at absent
            cases absent
          case present =>
            intro other there
            rw [found] at there
            cases there
            exact ⟨_, lookup_put_self _ _ _, .of_same rfl rfl rfl⟩
        · exact .of_eq (lookup_put_other model same _)

/-- An event that is not about an operation, and reloads nothing, asks for no more readings of it
than a pass does. -/
theorem pacedAt_update (sorted : model.Sorted) (event : Event Time) (other : event.key ≠ some key)
    (loads_none : ∀ attempt records nowMs,
      event ≠ .shellCompleted attempt (.recordsLoaded records nowMs)) :
    PacedAt key model (update model event).1 (asks key (update model event).2) := by
  cases event with
  | submitted submission =>
    simp only [update, asks_submitted]
    apply PacedAt.of_eq
    apply (lookup_submitted model submission).2
    exact fun same => other (congrArg some same)
  | withdrawn userOpHash =>
    apply PacedAt.of_eq
    simp only [update, withdrawn]
    have different : normalize userOpHash ≠ key := fun same => other (congrArg some same)
    split
    · rfl
    · split
      · exact lookup_put_other model different _
      · split
        · exact Keyed.get?_erase_other different model.entries
        · exact lookup_put_other model different _
  | abort userOpHash => exact pacedAt_abort key model userOpHash
  | tick =>
    simp only [update]
    split <;> exact .of_eq rfl
  | appResumed | homeFocused => exact .of_eq rfl
  | shellCompleted attempt result =>
    simp only [update]
    split
    · cases target : result.target with
      | some =>
        obtain ⟨nowMs, _, asked⟩ := accept_asked sorted target
        apply asked.others
        exact fun same => other (target.trans (congrArg some same))
      | none =>
        cases result with
        | clock nowMs =>
          exact (PacedAt.stamped key model nowMs).trans
            (.scheduled (sorted_stampUnstamped sorted nowMs) _ _)
        | recordsLoaded records nowMs => exact absurd rfl (loads_none attempt records nowMs)
        | recordsPatched | notified => exact .of_eq rfl
        | receipt | receiptWithLogs | receiptFailed | receiptPending | receiptUnreachable
        | status | statusUnavailable | opEvent | txReceipt => cases target
    · exact .of_eq rfl

variable {before after : Model Time}

omit [TrackRuntime] [Clock Time] in
theorem not_begins (absent : before.lookup key = none → after.lookup key = none)
    (present : ∀ entry, before.lookup key = some entry → entry.status.isTerminal = true →
      ∀ next, after.lookup key = some next → next.status.isTerminal = true) :
    Said.begins key before after = false := by
  unfold Said.begins
  cases there : before.lookup key with
  | none => simp [absent there]
  | some entry =>
    cases terminal : entry.status.isTerminal with
    | false => simp [terminal]
    | true =>
      cases found : after.lookup key with
      | none => simp
      | some next => simp [present entry there terminal next found]

omit [TrackRuntime] [Clock Time] in
theorem not_begins_of_paced {asked : List Window}
    (paced : PacedAt key before after asked) : Said.begins key before after = false := by
  apply not_begins fun absent => (paced.absent absent).1
  intro entry there terminal next found
  obtain ⟨other, found_other, same⟩ := paced.present entry there
  rw [found] at found_other
  cases found_other
  exact same.terminal.trans terminal

theorem not_begins_of_answer {key : String} {result : TrackShellResult Time}
    (target : result.target = some key) :
    Said.begins key model (accept model result).1 = false := by
  obtain ⟨nowMs, _, handled⟩ := accept_handled model target
  apply not_begins fun absent => (handled.absent absent).1
  intro entry there terminal next found
  obtain ⟨other, found_other, kept, _⟩ := handled.present entry there
  rw [found] at found_other
  cases found_other
  have ended : (entry.stamp nowMs).status.isTerminal = true := by
    rw [(kept_stamp entry nowMs).resolved terminal]
    exact terminal
  have final : (result.handle key (entry.stamp nowMs)).1.status.isTerminal = true := by
    rw [(handle_final ended).1]
    exact ended
  rw [kept.resolved final]
  exact final

omit [TrackRuntime] [Clock Time] in
theorem asking_asking (readings : Readings) (windows more : List Window) :
    (readings.asking windows).asking more = readings.asking (windows ++ more) := by
  simp [Readings.asking]

omit [TrackRuntime] [Clock Time] in
theorem asking_nil (readings : Readings) : readings.asking [] = readings := by
  simp [Readings.asking]

omit [Clock Time] in
theorem observe_eq {event : Event Time} {effects : List TrackEffect}
    (unanswered : ∀ attempt userOpHash nowMs answer,
      event = .shellCompleted attempt (.opEvent userOpHash nowMs answer) →
        ¬(attempt = before.attempt ∧ normalize userOpHash = key)) :
    readings.observe key before event number after effects =
      ((if Said.begins key before after then readings.renewed else readings).seen
        ((after.lookup key).bind (·.find.start))).asking (asks key effects) := by
  unfold Readings.observe
  cases event with
  | shellCompleted attempt result =>
    cases result with
    | opEvent userOpHash nowMs answer =>
      simp only [if_neg (unanswered attempt userOpHash nowMs answer rfl)]
    | clock | receipt | receiptWithLogs | receiptFailed | receiptPending | receiptUnreachable
    | status | statusUnavailable | recordsLoaded | recordsPatched | notified | txReceipt => rfl
  | submitted | withdrawn | tick | appResumed | homeFocused | abort => rfl

omit [TrackRuntime] [Clock Time] in
theorem Scanned.fresh (past : ∀ query ∈ readings.out, query.1 ≤ readings.life) :
    readings.renewed.Fresh := by
  refine ⟨rfl, rfl, ?_⟩
  rw [List.filter_eq_nil_iff]
  intro query member
  have earlier := past query member
  have differs : query.1 ≠ readings.life + 1 := by omega
  simp [Readings.renewed, differs]

omit [Clock Time] in
theorem scanned_of_paced {event : Event Time} {effects : List TrackEffect}
    (scanned : ∀ entry, before.lookup key = some entry → Scanned entry readings)
    (paced : PacedAt key before after (asks key effects))
    (unanswered : ∀ attempt userOpHash nowMs answer,
      event = .shellCompleted attempt (.opEvent userOpHash nowMs answer) →
        ¬(attempt = before.attempt ∧ normalize userOpHash = key)) :
    ∀ entry, after.lookup key = some entry →
      Scanned entry (readings.observe key before event number after effects) := by
  intro later found
  cases there : before.lookup key with
  | none =>
    rw [(paced.absent there).1] at found
    cases found
  | some entry =>
    obtain ⟨next, found_next, same⟩ := paced.present entry there
    rw [found] at found_next
    cases found_next
    have standing := (scanned entry there).of_paced same
    rw [observe_eq unanswered, not_begins_of_paced paced, found, Option.bind_some]
    have start : readings.seen later.find.start = readings := by
      have progress := same.progress
      simp only [FindScan.progress, Prod.mk.injEq] at progress
      rw [progress.1]
      exact (scanned entry there).seen_eq
    simp only [Bool.false_eq_true, if_false, start]
    exact standing

omit [Clock Time] in
theorem scanned_of_submitted (scans : ScansAt key model readings) {submission : Submission}
    (same : normalize submission.userOpHash = key)
    (learns : (submission.joins model).all (fun entry =>
      entry.learns readings.start submission.submitBlock) = true) :
    ∀ entry, (submitted model submission).1.lookup key = some entry →
      Scanned entry (readings.observe key model (.submitted submission) number
        (submitted model submission).1 (submitted model submission).2) := by
  subst same
  intro later found
  have submit : ∀ (entry : Entry Time) posting fresh,
      (entry.submit submission posting fresh).find =
        (entry.mergeSubmitFacts submission.maybeSent submission.submitBlock).find ∧
      (entry.submit submission posting fresh).submitBlock =
        (entry.mergeSubmitFacts submission.maybeSent submission.submitBlock).submitBlock := by
    intro entry posting fresh
    have records : ∀ (ids : List String) (entry : Entry Time),
        (ids.foldl Entry.mergeRecordId entry).find = entry.find ∧
          (ids.foldl Entry.mergeRecordId entry).submitBlock = entry.submitBlock := by
      intro ids
      induction ids with
      | nil => exact fun _ => ⟨rfl, rfl⟩
      | cons id _ ih =>
        intro entry
        obtain ⟨find, submitBlock⟩ := ih (entry.mergeRecordId id)
        obtain ⟨merged, same⟩ := mergeRecordId_scan entry id
        exact ⟨find.trans merged, submitBlock.trans same⟩
    have posted : (entry.posted posting fresh).find = entry.find ∧
        (entry.posted posting fresh).submitBlock = entry.submitBlock := by
      unfold Entry.posted
      split
      · dsimp only
        split <;> exact ⟨rfl, rfl⟩
      · split <;> exact ⟨rfl, rfl⟩
    have acknowledged : ∀ (entry : Entry Time) admitted,
        (entry.acknowledge admitted).find = entry.find ∧
          (entry.acknowledge admitted).submitBlock = entry.submitBlock := by
      intro entry admitted
      unfold Entry.acknowledge
      split <;> exact ⟨rfl, rfl⟩
    unfold Entry.submit
    dsimp only
    rw [(acknowledged _ _).1, (acknowledged _ _).2, (mergeSender_scan _ _).1,
      (mergeSender_scan _ _).2]
    exact mergeSubmitFacts_congr ((records _ _).1.trans posted.1)
      ((records _ _).2.trans posted.2) _ _
  have is_later : later.find = ((submission.base model).mergeSubmitFacts submission.maybeSent
        submission.submitBlock).find ∧
      later.submitBlock = ((submission.base model).mergeSubmitFacts submission.maybeSent
        submission.submitBlock).submitBlock ∧
      later.status = (submission.base model).status := by
    have polled : (submitted model submission).1.lookup (normalize submission.userOpHash) = some
        (if (submission.entry model).pollsNow then
          { submission.entry model with receiptInFlight := true } else submission.entry model) :=
      lookup_put_self _ _ _
    rw [polled] at found
    cases found
    obtain ⟨find, submitBlock⟩ := submit (submission.base model) submission.posting
      (submission.joins model).isNone
    have status := status_submit (submission.base model) submission submission.posting
      (submission.joins model).isNone
    split <;> exact ⟨find, submitBlock, status⟩
  obtain ⟨find, submitBlock, status⟩ := is_later
  rw [observe_eq nofun, asks_submitted, asking_nil, found, Option.bind_some]
  unfold Submission.base at find submitBlock status
  cases joined : submission.joins model with
  | some entry =>
    rw [joined] at find submitBlock status learns
    have there := (Option.filter_eq_some_iff.mp joined).1
    have lasting : Said.begins (normalize submission.userOpHash) model
        (submitted model submission).1 = false := by
      apply not_begins
      · intro absent
        rw [there] at absent
        cases absent
      · intro other found_other terminal next found_next
        rw [there] at found_other
        cases found_other
        rw [found] at found_next
        cases found_next
        rw [status]
        exact terminal
    have scanned := scans.scanned entry there
    have merged := scanned.merge submission.maybeSent learns
    simp only [lasting, Bool.false_eq_true, if_false]
    rw [find]
    exact merged.of_same find submitBlock
  | none =>
    rw [joined] at find submitBlock status
    have begins : Said.begins (normalize submission.userOpHash) model
        (submitted model submission).1 = true := by
      unfold Said.begins
      rw [found, Option.any_some, status]
      cases there : model.lookup (normalize submission.userOpHash) with
      | none => rfl
      | some =>
        have dead := isDead_of_joins_eq_none joined there
        simp only [Entry.isDead, Bool.or_eq_true, decide_eq_true_eq] at dead
        rcases dead with status | status <;>
          simp [status, EntryStatus.isTerminal, Entry.fresh, Entry.new]
    have scanned : Scanned (Entry.fresh submission.chainId : Entry Time) readings.renewed :=
      scanned_new (Scanned.fresh scans.past) rfl rfl
    have untaught : (Entry.fresh submission.chainId : Entry Time).learns readings.renewed.start
        submission.submitBlock = true := rfl
    have merged := scanned.merge submission.maybeSent untaught
    simp only [begins, if_true]
    rw [find]
    exact merged.of_same find submitBlock

theorem scanned_of_recordsLoaded (scans : ScansAt key model readings) {attempt : Nat}
    {records : List (TrackPendingRecord Time)} {nowMs : Time}
    (learns : (model.lookup key).all (fun entry => entry.learns readings.start
      (firstBlock key (records.filter (·.isFollowed nowMs)))) = true) :
    ∀ entry, (accept model (.recordsLoaded records nowMs)).1.lookup key = some entry →
      Scanned entry
        (readings.observe key model (.shellCompleted attempt (.recordsLoaded records nowMs))
        number (accept model (.recordsLoaded records nowMs)).1
        (accept model (.recordsLoaded records nowMs)).2) := by
  intro later found
  have unheard := Unheard.of_recordsLoaded key model records nowMs
  have stamped : PacedAt key model
      { stampUnstamped model nowMs with reconcileInFlight := false } [] :=
    { PacedAt.stamped key model nowMs with }
  have sorted : Model.Sorted { stampUnstamped model nowMs with reconcileInFlight := false } :=
    sorted_stampUnstamped scans.sorted nowMs
  have sorted_loaded : (recordsLoaded (stampUnstamped model nowMs) records nowMs).Sorted :=
    sorted_load _ sorted
  have scheduled := PacedAt.scheduled sorted_loaded key nowMs
  -- what stands once the records are merged, of a life that goes on or begins
  have stands : StandsAt key (recordsLoaded (stampUnstamped model nowMs) records nowMs)
      (if Said.begins key model (accept model (.recordsLoaded records nowMs)).1
        then readings.renewed else readings) := by
    cases there : model.lookup key with
    | none =>
      have live : later.status.isTerminal = false := by
        by_contra terminal
        obtain ⟨earlier, there_earlier, _⟩ :=
          unheard.resolved later found (by simpa using terminal)
        rw [there] at there_earlier
        cases there_earlier
      have begins : Said.begins key model (accept model (.recordsLoaded records nowMs)).1 =
          true := by
        simp [Said.begins, there, found, live]
      rw [begins]
      have gone := (stamped.absent there).1
      apply standsAt_loads
      · intro entry found_entry
        rw [gone] at found_entry
        cases found_entry
      · exact fun _ => Scanned.fresh scans.past
      · intro entry found_entry
        rw [gone] at found_entry
        cases found_entry
    | some entry =>
      have lasts : Said.begins key model (accept model (.recordsLoaded records nowMs)).1 =
          false := by
        apply not_begins
        · intro absent
          rw [there] at absent
          cases absent
        · intro other found_other terminal next found_next
          obtain ⟨last, found_last, same⟩ := unheard.lasting other found_other terminal
          rw [found_last] at found_next
          cases found_next
          rw [same]
          exact terminal
      rw [lasts]
      obtain ⟨between, found_between, paced⟩ := stamped.present entry there
      have standing := (scans.scanned entry there).of_paced paced
      rw [asking_nil] at standing
      have only : ∀ other, Model.lookup
          { stampUnstamped model nowMs with reconcileInFlight := false } key = some other →
          other = between := by
        intro other same
        rw [found_between] at same
        exact (Option.some.inj same).symm
      have progress := paced.progress
      simp only [FindScan.progress, Prod.mk.injEq] at progress
      apply standsAt_loads
      · intro other found_other
        rw [only other found_other]
        simp only [Bool.false_eq_true, if_false]
        rw [standing.seen_eq]
        exact standing
      · intro absent
        rw [found_between] at absent
        cases absent
      · intro other found_other
        rw [only other found_other]
        simp only [Bool.false_eq_true, if_false]
        rw [standing.seen_eq]
        rw [there] at learns
        unfold Entry.learns at learns ⊢
        rw [paced.submitBlock, progress.2.2.2.2]
        exact learns
  rw [observe_eq (by rintro _ _ _ _ ⟨⟩), found, Option.bind_some]
  cases merged : (recordsLoaded (stampUnstamped model nowMs) records nowMs).lookup key with
  | none =>
    have gone : (accept model (.recordsLoaded records nowMs)).1.lookup key = none :=
      (scheduled.absent merged).1
    rw [found] at gone
    cases gone
  | some entry =>
    obtain ⟨next, found_next, paced⟩ := scheduled.present entry merged
    have is_next : (accept model (.recordsLoaded records nowMs)).1.lookup key = some next :=
      found_next
    rw [found] at is_next
    cases is_next
    have progress := paced.progress
    simp only [FindScan.progress, Prod.mk.injEq] at progress
    rw [progress.1]
    exact (stands entry merged).of_paced paced

omit [TrackRuntime] [Clock Time] in
theorem past_observe [TrackRuntime] [Clock Time]
    (past : ∀ query ∈ readings.out, query.1 ≤ readings.life) (before : Model Time)
    (event : Event Time) (number : Nat) (after : Model Time) (effects : List TrackEffect) :
    ∀ query ∈ (readings.observe key before event number after effects).out,
      query.1 ≤ (readings.observe key before event number after effects).life := by
  have asked : ∀ readings : Readings, (∀ query ∈ readings.out, query.1 ≤ readings.life) →
      ∀ start windows, ∀ query ∈ ((readings.seen start).asking windows).out,
        query.1 ≤ ((readings.seen start).asking windows).life := by
    intro readings past start windows query member
    rcases List.mem_append.mp member with inside | inside
    · exact past query inside
    · obtain ⟨_, _, rfl⟩ := List.mem_map.mp inside
      exact Nat.le_refl _
  have answered : ∀ readings : Readings, (∀ query ∈ readings.out, query.1 ≤ readings.life) →
      ∀ answer, ∀ query ∈ (readings.answered key number answer).out,
        query.1 ≤ (readings.answered key number answer).life := by
    intro readings past answer
    unfold Readings.answered
    split
    · exact past
    · split <;> exact fun query member => past query (List.mem_of_mem_eraseIdx member)
  have renewed :
      ∀ query ∈ (if Said.begins key before after then readings.renewed else readings).out,
      query.1 ≤ (if Said.begins key before after then readings.renewed else readings).life := by
    split
    · exact fun query member => Nat.le_succ_of_le (past query member)
    · exact past
  unfold Readings.observe
  apply asked
  split
  · split
    · exact answered _ renewed _
    · exact renewed
  · exact renewed

theorem scanned_of_answer
    (scans : ScansAt key model readings) {attempt : Nat} {result : TrackShellResult Time}
    (current : attempt = model.attempt) (about : result.target = some key)
    (delivered : delivers key (.shellCompleted attempt result, number) (model, readings) = true)
    (inTurn : (match (Event.shellCompleted attempt result : Event Time) with
      | .shellCompleted attempt (.opEvent userOpHash _ answer) =>
        attempt != model.attempt || normalize userOpHash != key ||
          (model.lookup key).all fun entry => entry.find.inFlight.isNone ||
            readings.out[number]?.any fun query => query.1 = readings.life &&
              (entry.status.isTerminal || query.2.1.isNone || answer.readsEvents key)
      | .submitted submission => normalize submission.userOpHash != key ||
          (submission.joins model).all fun entry =>
            entry.learns readings.start submission.submitBlock
      | .shellCompleted attempt (.recordsLoaded records nowMs) =>
        attempt != model.attempt || (model.lookup key).all fun entry =>
          entry.learns readings.start (firstBlock key (records.filter (·.isFollowed nowMs)))
      | _ => true) = true) :
    ∀ entry, (accept model result).1.lookup key = some entry →
      Scanned entry (readings.observe key model (.shellCompleted attempt result) number
        (accept model result).1 (accept model result).2) := by
  obtain ⟨nowMs, clock, asked⟩ := accept_asked scans.sorted about
  intro later found
  cases there : model.lookup key with
  | none =>
    rw [(asked.absent there).1] at found
    cases found
  | some entry =>
    obtain ⟨next, more, found_next, paced, asks_eq⟩ := asked.present entry there
    rw [found] at found_next
    cases found_next
    have stamped := paced_stamp entry nowMs
    have scanned := (scans.scanned entry there).of_paced stamped
    rw [asking_nil] at scanned
    have lasts := @not_begins_of_answer Time _ _ model key result about
    have progress := paced.progress
    simp only [FindScan.progress, Prod.mk.injEq] at progress
    by_cases reading : ∃ userOpHash time answer, result = .opEvent userOpHash time answer
    · obtain ⟨userOpHash, time, answer, rfl⟩ := reading
      cases clock
      have same : normalize userOpHash = key := Option.some.inj about
      obtain ⟨move, _⟩ := onOpEvent_moves key (entry.stamp nowMs) nowMs answer
      have inFlight : (entry.stamp nowMs).find.inFlight = entry.find.inFlight := by
        rcases stamped.flight with ⟨same, _⟩ | ⟨_, _, asks_one⟩
        · exact same
        · cases asks_one
      have standing := scanned_answered scanned
        (by simpa [delivers, same] using delivered)
        (by
          rw [inFlight, stamped.terminal]
          simpa [current, same, there] using inTurn) move
      have done := standing.of_paced paced
      rw [asking_asking] at done
      unfold Readings.observe
      simp only [lasts, current, same, and_self, if_true, Bool.false_eq_true, if_false, found,
        Option.bind_some, asks_eq]
      rw [progress.1]
      exact done
    · have other : ∀ userOpHash time answer, result ≠ .opEvent userOpHash time answer :=
        fun userOpHash time answer same => reading ⟨userOpHash, time, answer, same⟩
      obtain ⟨find, submitBlock, quiet⟩ := handle_still key (entry.stamp nowMs) other
      have done := (scanned.of_same find submitBlock).of_paced paced
      rw [observe_eq, lasts, found, Option.bind_some, asks_eq, quiet, List.nil_append]
      · simp only [Bool.false_eq_true, if_false]
        rw [progress.1, find, scanned.seen_eq]
        exact done
      · rintro _ _ _ _ same ⟨_, _⟩
        cases same
        exact reading ⟨_, _, _, rfl⟩

theorem scansAt_step {event : Event Time} (scans : ScansAt key model readings)
    (inTurn : answeredInTurn key (event, number) (model, readings) = true) :
    ScansAt key (update model event).1
      (readings.observe key model event number (update model event).1 (update model event).2) := by
  refine ⟨sorted_update scans.sorted event, past_observe scans.past _ _ _ _ _, ?_⟩
  unfold answeredInTurn at inTurn
  rw [Bool.and_eq_true] at inTurn
  obtain ⟨delivered, inTurn⟩ := inTurn
  have apart : event.key ≠ some key →
      (∀ attempt records nowMs, event ≠ .shellCompleted attempt (.recordsLoaded records nowMs)) →
      ∀ entry, (update model event).1.lookup key = some entry → Scanned entry
        (readings.observe key model event number (update model event).1
          (update model event).2) := by
    intro other loads_none
    apply scanned_of_paced scans.scanned (pacedAt_update scans.sorted event other loads_none)
    rintro attempt userOpHash nowMs answer rfl ⟨_, same⟩
    exact other (congrArg some same)
  cases event with
  | tick | appResumed | homeFocused => exact apart (by rintro ⟨⟩) (by rintro _ _ _ ⟨⟩)
  | abort userOpHash =>
    exact scanned_of_paced scans.scanned (pacedAt_abort key model userOpHash)
      (by rintro _ _ _ _ ⟨⟩)
  | submitted submission =>
    by_cases same : normalize submission.userOpHash = key
    · apply scanned_of_submitted scans same
      simpa [same] using inTurn
    · exact apart (fun other => same (Option.some.inj other)) (by rintro _ _ _ ⟨⟩)
  | withdrawn userOpHash recordIds =>
    by_cases same : normalize userOpHash = key
    · subst same
      intro later found
      obtain ⟨earlier, there, shape⟩ := lookup_withdrawn found
      have lasts : Said.begins (normalize userOpHash) model
          (withdrawn model userOpHash recordIds) = false := by
        apply not_begins
        · intro absent
          rw [there] at absent
          cases absent
        · intro other found_other terminal next found_next
          rw [there] at found_other
          cases found_other
          have is_next : (withdrawn model userOpHash recordIds).lookup (normalize userOpHash) =
              some later := found
          rw [is_next] at found_next
          cases found_next
          rw [shape]
          exact terminal
      have quiet : asks (normalize userOpHash)
          (update model (.withdrawn userOpHash recordIds)).2 = [] := rfl
      have scanned := scans.scanned earlier there
      rw [observe_eq (by rintro _ _ _ _ ⟨⟩), quiet, asking_nil, found, Option.bind_some]
      simp only [update, lasts, Bool.false_eq_true, if_false]
      have start : later.find.start = earlier.find.start := by rw [shape]
      rw [start, scanned.seen_eq]
      exact scanned.of_same (by rw [shape]) (by rw [shape])
    · exact apart (fun other => same (Option.some.inj other)) (by rintro _ _ _ ⟨⟩)
  | shellCompleted attempt result =>
    by_cases current : attempt = model.attempt
    · have accepted : update model (.shellCompleted attempt result) = accept model result :=
        if_pos current
      by_cases about : result.target = some key
      · rw [accepted]
        exact scanned_of_answer scans current about delivered inTurn
      · by_cases loads : ∃ records nowMs, result = .recordsLoaded records nowMs
        · obtain ⟨records, nowMs, rfl⟩ := loads
          rw [accepted]
          apply scanned_of_recordsLoaded scans
          simpa [current] using inTurn
        · apply apart about
          intro _ records nowMs same
          cases same
          exact loads ⟨records, nowMs, rfl⟩
    · have stale : update model (.shellCompleted attempt result) = (model, []) := if_neg current
      rw [stale]
      have paced : PacedAt key model model (asks key []) := .of_eq rfl
      apply scanned_of_paced scans.scanned paced
      rintro _ _ _ _ same ⟨now, _⟩
      cases same
      exact current now

theorem scansAt_of_run {history : List ((Event Time × Nat) × List TrackEffect)}
    {state : Model Time × Readings}
    (run : Process.Run (scanTracker Time key) (answeredInTurn key) history state) :
    ScansAt key state.1 state.2 := by
  apply run.state_invariant fun state => ScansAt key state.1 state.2
  case initial =>
    refine ⟨List.Pairwise.nil, nofun, ?_⟩
    intro entry found
    cases found
  case kept =>
    intro delivery state next effects inTurn stepped scans
    have is_next : next = ((update state.1 delivery.1).1,
        state.2.observe key state.1 delivery.1 delivery.2 (update state.1 delivery.1).1
          (update state.1 delivery.1).2) :=
      (congrArg Prod.fst (Option.some.inj stepped)).symm
    rw [is_next]
    exact scansAt_step scans inTurn

/-- A scan says of no block more than the readings of its own life do. -/
structure ReadsSoundly (entry : Entry Time) (readings : Readings) : Prop where
  covered : ∀ through, entry.find.scannedThrough = some through →
    ∃ first, readings.start = some first ∧ (first ≤ maxBlock → first ≤ through) ∧
      ∀ block, first ≤ block → block ≤ through → readings.Covers block
  gapless : ∀ start, entry.find.start = some start →
    entry.find.scannedThrough = none ∧ readings.start = some start ∨
      ∃ through, entry.find.scannedThrough = some through ∧ start ≤ through + 1
  caughtUp : entry.find.caughtUp = true → ∃ first through head,
    readings.start = some first ∧ entry.find.scannedThrough = some through ∧
      readings.head = some head ∧ head ≤ through ∧
      ∀ block, entry.submitBlock = some block → first ≤ block

omit [TrackRuntime] [Clock Time] in
theorem Scanned.readsSoundly (scanned : Scanned entry readings) : ReadsSoundly entry readings := by
  have started : ∀ through, entry.find.scannedThrough = some through →
      ∃ first, readings.start = some first := by
    intro through read
    cases start : readings.start with
    | some first => exact ⟨first, rfl⟩
    | none =>
      rw [(scanned.unread (scanned.started.mp start)).1] at read
      cases read
  constructor
  case covered =>
    intro through read
    obtain ⟨first, start⟩ := started through read
    exact ⟨first, start, scanned.reached first through start read,
      scanned.covered first through start read⟩
  case gapless => exact scanned.next
  case caughtUp =>
    intro caughtUp
    unfold FindScan.caughtUp at caughtUp
    rw [Bool.and_eq_true] at caughtUp
    obtain ⟨anchored, reached⟩ := caughtUp
    split at reached
    · next through head read is_head =>
        obtain ⟨first, start⟩ := started through read
        refine ⟨first, through, head, start, read, ?_, of_decide_eq_true reached, ?_⟩
        · rw [← scanned.head]
          exact is_head
        · exact fun block known => scanned.anchored anchored block first known start
    · cases reached

/-- Whatever is answered in turn, a scan says of no block more than its readings do. -/
theorem scans_read_soundly {key : String}
    {history : List ((Event Time × Nat) × List TrackEffect)} {state : Model Time × Readings}
    (run : Process.Run (scanTracker Time key) (answeredInTurn key) history state) (found : state.1.lookup key = some entry) :
    ReadsSoundly entry state.2 :=
  ((scansAt_of_run run).scanned entry found).readsSoundly

end Runs

end Tracker

section Sample

attribute [local instance] wholeClock

/-- A tracker that reads an empty log array, and one with an event that holds no word of success. -/
@[reducible] local instance : TrackRuntime := sampleRuntime fun text =>
  if text = "[]" then some (.array []) else if text = "cut" then some (.array [cutEvent]) else none

/-- An answer of the chain to the reading with the given number. -/
def chainSays (nowMs : Int) (logsJson : Option String) (head number : Nat) : Event Int × Nat :=
  (.shellCompleted 0 (.opEvent "0xab" nowMs ⟨logsJson, none, some head⟩), number)

/-- An operation that may have been sent, with its first window asked for. -/
def firstWindow : List (Event Int × Nat) :=
  [(knownSubmit true false, 0), (.shellCompleted 0 (.clock 0), 0),
    (.shellCompleted 0 (.clock 12000), 0), chainSays 13000 none 1 0]

/-- The operation is refused with its first window out, and starts anew at the fifth block. -/
def secondLife : List (Event Int × Nat) :=
  firstWindow ++
    [(.shellCompleted 0 (.status "0xab" ⟨.rejected, none, none, none⟩ 14000), 0),
      (.submitted ⟨"0xab", [], 56, true, some 5, false, none⟩, 0),
      (.shellCompleted 0 (.clock 20000), 0), (.shellCompleted 0 (.clock 32000), 0),
      chainSays 33000 none 5 1]

theorem chainRead_caughtUp :
    ∃ history state entry,
      Process.Run (scanTracker Int "0xab") (answeredInTurn "0xab") history state ∧
        state.1.lookup "0xab" = some entry ∧ entry.find.caughtUp = true ∧
        ReadsSoundly entry state.2 := by
  have played : ((scanTracker Int "0xab").play (answeredInTurn "0xab")
      (firstWindow ++ [chainSays 14000 (some "[]") 1 0])).any
      (fun reached => (reached.2.1.lookup "0xab").any (·.find.caughtUp)) = true := by
    decide
  obtain ⟨history, state, run, holds⟩ := Process.exists_run_of_play played
  obtain ⟨entry, found, caughtUp⟩ := Option.any_eq_true _ _ |>.mp holds
  exact ⟨history, state, entry, run, found, caughtUp, scans_read_soundly run found⟩

/-- A block whose event cannot be read, and one that only an answer of an earlier life was taken
for, are said to hold no event. -/
theorem blocks_unvouched :
    (∃ history state entry, Process.Run (scanTracker Int "0xab") (delivers "0xab") history state ∧
      state.1.lookup "0xab" = some entry ∧ history.length = 5 ∧ ¬ReadsSoundly entry state.2) ∧
    ∃ history state entry, Process.Run (scanTracker Int "0xab") (delivers "0xab") history state ∧
      state.1.lookup "0xab" = some entry ∧ history.length = 10 ∧ ¬ReadsSoundly entry state.2 := by
  have unvouched : ∀ {events : List (Event Int × Nat)} {count block : Nat},
      ((scanTracker Int "0xab").play (delivers "0xab") events).any
        (fun reached => (reached.2.1.lookup "0xab").any
          (fun entry => entry.find.scannedThrough = some block) &&
          (reached.2.2.clean.isEmpty && reached.2.2.start = some block && block ≤ maxBlock &&
            reached.1.length = count)) = true →
      ∃ history state entry, Process.Run (scanTracker Int "0xab") (delivers "0xab") history state ∧
        state.1.lookup "0xab" = some entry ∧ history.length = count ∧
        ¬ReadsSoundly entry state.2 := by
    intro events count block played
    obtain ⟨history, state, run, holds⟩ := Process.exists_run_of_play played
    simp only [Bool.and_eq_true, Option.any_eq_true, decide_eq_true_eq, List.isEmpty_iff] at holds
    obtain ⟨⟨entry, found, read⟩, ⟨⟨⟨clean, start⟩, bounded⟩, length⟩⟩ := holds
    refine ⟨history, state, entry, run, found, length, ?_⟩
    intro sound
    obtain ⟨first, started, reached, covers⟩ := sound.covered block read
    rw [start] at started
    cases started
    obtain ⟨window, member, _⟩ := covers block (Nat.le_refl _) (Nat.le_refl _)
    rw [clean] at member
    cases member
  constructor
  · exact @unvouched (firstWindow ++ [chainSays 14000 (some "cut") 1 0]) 5 1 (by decide +kernel)
  · exact @unvouched (secondLife ++ [chainSays 34000 (some "[]") 1 0]) 10 5 (by decide)

end Sample

end VelaWallet.TxTracker

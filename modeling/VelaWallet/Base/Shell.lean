import VelaWallet.Base.Process
import Mathlib.Data.List.Nodup

/-!
# Processes with a shell

A process that makes requests, run with the shell that answers them: each request is
answered once at most, at any later time and in any order.
-/

structure Served (State Request : Type) where
  state : State
  outstanding : List (Request × Nat)
  issued : Nat

/-- The requests outstanding, without their numbers. -/
def Served.requests {State Request : Type} (served : Served State Request) : List Request :=
  served.outstanding.map (·.1)

/-- An event of the world, or an answer to the request of a number. -/
inductive Move (Event : Type) where
  | arrives (event : Event)
  | answers (number : Nat) (event : Event)

def Move.event {Event : Type} : Move Event → Event
  | arrives event | answers _ event => event

/-- The events the world may send, and the events that answer a request. -/
structure Shell (Event Request : Type) where
  external : Event → Bool
  answers : Request → Event → Bool

namespace Shell

variable {State Event Request : Type} {shell : Shell Event Request}

/-- What is outstanding once the move is made, if it may be made. -/
def accepts (shell : Shell Event Request) (move : Move Event)
    (outstanding : List (Request × Nat)) : Option (List (Request × Nat)) :=
  match move with
  | .arrives event => if shell.external event then some outstanding else none
  | .answers number event =>
    match outstanding.find? (·.2 == number) with
    | none => none
    | some request =>
      if shell.answers request.1 event then some (outstanding.eraseP (·.2 == number))
      else none

/-- A move the shell may make, and what it leaves outstanding. -/
inductive Accepts (shell : Shell Event Request) :
    Move Event → List (Request × Nat) → List (Request × Nat) → Prop where
  | arrives {event : Event} {outstanding : List (Request × Nat)}
      (external : shell.external event = true) :
      Accepts shell (.arrives event) outstanding outstanding
  | answers {event : Event} {request : Request} {number : Nat}
      {before after : List (Request × Nat)} (answers : shell.answers request event = true) :
      Accepts shell (.answers number event) (before ++ (request, number) :: after)
        (before ++ after)

variable {outstanding rest : List (Request × Nat)}

variable {move : Move Event}

theorem accepts_cases (accepted : shell.accepts move outstanding = some rest) :
    shell.Accepts move outstanding rest := by
  cases move with
  | arrives =>
    simp only [accepts] at accepted
    split at accepted
    case isTrue external =>
      cases accepted
      exact .arrives external
    case isFalse => contradiction
  | answers number =>
    simp only [accepts] at accepted
    split at accepted
    case _ => contradiction
    case _ request found =>
      split at accepted
      case isFalse => contradiction
      case isTrue answers =>
        cases accepted
        obtain ⟨same, before, after, rfl, earlier⟩ := List.find?_eq_some_iff_append.mp found
        obtain ⟨request, number'⟩ := request
        obtain rfl : number' = number := beq_iff_eq.mp same
        have erased : (before ++ (request, number') :: after).eraseP (·.2 == number') =
            before ++ after := by
          rw [List.eraseP_append_right _ (by simpa using earlier)]
          simp
        rw [erased]
        exact .answers answers

theorem Accepts.sublist
    (accepted : shell.Accepts move outstanding rest) : rest.Sublist outstanding := by
  cases accepted with
  | arrives => exact List.Sublist.refl _
  | answers => exact List.Sublist.append_left (List.sublist_cons_self _ _) _

theorem Accepts.stays
    (accepted : shell.Accepts move outstanding rest) {request : Request} {number : Nat}
    (member : (request, number) ∈ outstanding) :
    (∃ event, move = .answers number event ∧ shell.answers request event = true) ∨
      (request, number) ∈ rest := by
  cases accepted with
  | arrives => exact .inr member
  | @answers event answered answeredNumber before after answers =>
    rcases List.mem_append.mp member with early | late
    · exact .inr (List.mem_append_left _ early)
    · rcases List.mem_cons.mp late with same | late
      · cases same
        exact .inl ⟨event, rfl, answers⟩
      · exact .inr (List.mem_append_right _ late)

/-- What an event takes from the requests: nothing, or the one it answers. -/
inductive Takes (shell : Shell Event Request) (event : Event) :
    List Request → List Request → Prop where
  | none {requests : List Request} (external : shell.external event = true) :
      Takes shell event requests requests
  | one {request : Request} {before after : List Request}
      (answers : shell.answers request event = true) :
      Takes shell event (before ++ request :: after) (before ++ after)

theorem Accepts.takes (accepted : shell.Accepts move outstanding rest) :
    shell.Takes move.event (outstanding.map (·.1)) (rest.map (·.1)) := by
  cases accepted with
  | arrives external => exact .none external
  | answers answers =>
    rw [List.map_append, List.map_cons, List.map_append]
    exact .one answers

theorem Takes.subset {event : Event} {requests rest : List Request}
    (takes : shell.Takes event requests rest) : rest ⊆ requests := by
  cases takes with
  | none => exact List.Subset.refl _
  | one => exact (List.Sublist.append_left (List.sublist_cons_self _ _) _).subset

theorem Takes.countP {event : Event} {requests rest : List Request}
    (takes : shell.Takes event requests rest) (kind : Request → Bool) :
    requests.countP kind = rest.countP kind ∨
      ∃ request ∈ requests, shell.answers request event = true ∧ kind request = true ∧
        requests.countP kind = rest.countP kind + 1 := by
  cases takes with
  | none => exact .inl rfl
  | @one request before after answers =>
    cases of_kind : kind request with
    | false =>
      left
      simp [of_kind]
    | true =>
      refine .inr ⟨request, by simp, answers, of_kind, ?_⟩
      simp only [List.countP_append, List.countP_cons, of_kind, if_true]
      rfl

end Shell

namespace Process

variable {State Event Request : Type} {process : Process State Event (List Request)}
  {shell : Shell Event Request}

/-- The process run with its shell; it hands out its requests with their numbers. -/
@[reducible] def served (process : Process State Event (List Request))
    (shell : Shell Event Request) :
    Process (Served State Request) (Move Event) (List (Request × Nat)) where
  init := { state := process.init, outstanding := [], issued := 0 }
  step move served :=
    match shell.accepts move served.outstanding, process.step move.event served.state with
    | some rest, some (next, requests) =>
      let numbered := requests.zipIdx served.issued
      some ({
        state := next
        outstanding := rest ++ numbered
        issued := served.issued + requests.length }, numbered)
    | _, _ => none

/-- What a move of the session does. -/
structure Serves (process : Process State Event (List Request)) (shell : Shell Event Request)
    (move : Move Event) (before after : Served State Request) (rest : List (Request × Nat))
    (requests : List Request) : Prop where
  accepted : shell.Accepts move before.outstanding rest
  stepped : process.step move.event before.state = some (after.state, requests)
  outstanding : after.outstanding = rest ++ requests.zipIdx before.issued
  issued : after.issued = before.issued + requests.length

variable {before after : Served State Request}

theorem served_step {move : Move Event} {output : List (Request × Nat)}
    (stepped : (process.served shell).step move before = some (after, output)) :
    ∃ rest requests, process.Serves shell move before after rest requests ∧
      output = requests.zipIdx before.issued := by
  simp only at stepped
  split at stepped
  case _ rest _ requests accepted processed =>
    cases stepped
    exact ⟨rest, requests, ⟨Shell.accepts_cases accepted, processed, rfl, rfl⟩, rfl⟩
  case _ => contradiction

theorem Serves.takes {move : Move Event} {rest : List (Request × Nat)} {requests : List Request}
    (serves : process.Serves shell move before after rest requests) :
    ∃ left, shell.Takes move.event before.requests left ∧ after.requests = left ++ requests := by
  have taken : shell.Takes move.event before.requests (rest.map (·.1)) := serves.accepted.takes
  refine ⟨rest.map (·.1), taken, ?_⟩
  rw [Served.requests, serves.outstanding, List.map_append, List.zipIdx_map_fst]

/-- The numbers outstanding are all different, and were all given. -/
structure Numbered (served : Served State Request) : Prop where
  nodup : (served.outstanding.map (·.2)).Nodup
  given : ∀ request ∈ served.outstanding, request.2 < served.issued

theorem Numbered.init : Numbered (process.served shell).init where
  nodup := List.nodup_nil
  given := by simp

theorem Serves.numbered {move : Move Event} {rest : List (Request × Nat)} {requests : List Request}
    (serves : process.Serves shell move before after rest requests)
    (numbered : Numbered before) : Numbered after where
  nodup := by
    have kept : (rest.map (·.2)).Nodup :=
      numbered.nodup.sublist (serves.accepted.sublist.map _)
    rw [serves.outstanding, List.map_append, List.zipIdx_map_snd]
    apply List.Nodup.append kept List.nodup_range'
    intro number old new
    obtain ⟨request, member, rfl⟩ := List.mem_map.mp old
    have given := numbered.given request (serves.accepted.sublist.subset member)
    have made := (List.mem_range'_1.mp new).1
    exact absurd given (Nat.not_lt.mpr made)
  given := by
    intro request member
    rw [serves.outstanding, List.mem_append] at member
    rw [serves.issued]
    rcases member with old | new
    · have given := numbered.given request (serves.accepted.sublist.subset old)
      exact Nat.lt_add_right _ given
    · exact List.snd_lt_add_of_mem_zipIdx new

theorem Numbered.accepts {served : Served State Request} (numbered : Numbered served)
    {request : Request} {number : Nat} (member : (request, number) ∈ served.outstanding)
    {event : Event} (answers : shell.answers request event = true) :
    ∃ rest, shell.accepts (.answers number event) served.outstanding = some rest := by
  have found : served.outstanding.find? (·.2 == number) = some (request, number) := by
    cases search : served.outstanding.find? (·.2 == number) with
    | none => simpa using List.find?_eq_none.mp search _ member
    | some entry =>
      have same : entry.2 = number := by simpa using List.find?_some search
      have among := List.mem_of_find?_eq_some search
      rw [List.inj_on_of_nodup_map numbered.nodup among member same]
  refine ⟨served.outstanding.eraseP (·.2 == number), ?_⟩
  simp only [Shell.accepts, found, answers, if_true]

end Process

import VelaWallet.Signer.Runs

/-!
# Bytes cut in different ways

What a connection comes to when the same bytes reach it in different pieces, with the
shell's calls at the same places between them.
-/

namespace VelaWallet.TrustedSigner

open Json (Value)
open Utf8 (bytes)

variable {line : List Char}

def Item.single : Item → Move
  | .byte arrived => .bytes [arrived]
  | .send id request => .send id request
  | .finish => .finish
  | .closed => .closed

theorem stream_append (first second : List Move) :
    stream (first ++ second) = stream first ++ stream second := by
  induction first with
  | nil => rfl
  | cons move _ ih => cases move <;> simp [stream, ih]

theorem stream_singles (items : List Item) : stream (items.map Item.single) = items := by
  induction items with
  | nil => rfl
  | cons item _ ih => cases item <;> simp [stream, Item.single, ih]

def bytesOf : List Item → List UInt8
  | [] => []
  | .byte byte :: items => byte :: bytesOf items
  | _ :: items => bytesOf items

theorem bytesOf_append (first second : List Item) :
    bytesOf (first ++ second) = bytesOf first ++ bytesOf second := by
  induction first with
  | nil => rfl
  | cons item _ ih => cases item <;> simp [bytesOf, ih]

def Item.Ends : Item → Prop
  | .finish | .closed => True
  | _ => False

/-- Behind at most `MAX_HEAD` bytes without an ending call, bytes follow one another
that complete a head longer than `MAX_HEAD` less its last byte and that would be
accepted. -/
def OversizeIn [SignerRuntime] (connection : Connection) (items : List Item) : Prop :=
  ∃ before head after place, items = before ++ head.map .byte ++ after ∧
    (∀ item ∈ before, ¬ item.Ends) ∧
    (connection.inbox ++ bytesOf before).length ≤ maxHead ∧
    find (bytes "\r\n\r\n") (connection.inbox ++ bytesOf before ++ head) = some place ∧
    maxHead < place + 3 ∧
    (accept (Chars.fromUtf8Lossy ((connection.inbox ++ bytesOf before ++ head).take place))
      connection.origin).isSome = true

namespace Connection

variable [SignerRuntime] {connection : Connection}

theorem Alike.move {first second : Connection} (alike : Alike first second) (move : Move) :
    Alike (first.move move).1 (second.move move).1 ∧ (first.move move).2 = (second.move move).2 := by
  rcases alike with rfl | ⟨done, done'⟩
  · exact ⟨.refl _, rfl⟩
  cases move with
  | bytes =>
    rw [Connection.move, Connection.move, feed_done done, feed_done done']
    exact ⟨.inr ⟨done, done'⟩, rfl⟩
  | send =>
    simp only [Connection.move, send, done, done']
    exact ⟨.inr ⟨done, done'⟩, rfl⟩
  | finish =>
    exact ⟨.inr ⟨rfl, rfl⟩, by simp [Connection.move, finish, done, done']⟩
  | closed => exact ⟨.inr ⟨rfl, rfl⟩, by simp [Connection.move, closed, done, done']⟩

theorem Alike.run {first second : Connection} (alike : Alike first second) (moves : List Move) :
    Alike (first.run moves).1 (second.run moves).1 ∧ (first.run moves).2 = (second.run moves).2 := by
  induction moves generalizing first second with
  | nil => exact ⟨alike, rfl⟩
  | cons move _ ih =>
    obtain ⟨next, step⟩ := alike.move move
    obtain ⟨last, rest⟩ := ih next
    exact ⟨last, by rw [Connection.run, Connection.run, step, rest]⟩

theorem Waits.move (waits : connection.Waits) (move : Move) : (connection.move move).1.Waits := by
  cases move with
  | bytes arrived => exact (feed_waits connection arrived).1
  | send =>
    simp only [Connection.move, send]
    split
    case isTrue idle =>
      rcases waits with done | ⟨handshake, _⟩ | ⟨_, waiting⟩
      · rw [idle] at done
        cases done
      · rw [idle] at handshake
        cases handshake
      · exact .inr (.inr ⟨nofun, waiting⟩)
    case isFalse => exact waits
  | finish | closed => exact .inl rfl

theorem move_handshake (item : Item) (still : (connection.move item.single).1.phase = .handshake) :
    ¬ item.Ends ∧ connection.phase = .handshake ∧
      connection.move item.single =
        ({ connection with inbox := connection.inbox ++ bytesOf [item] }, {}) := by
  cases item with
  | byte arrived =>
    obtain ⟨gathered, handshake⟩ := (feed_waits connection [arrived]).2 still
    exact ⟨nofun, handshake, gathered⟩
  | send =>
    simp only [Item.single, Connection.move, send] at still ⊢
    by_cases idle : connection.phase = .idle
    · rw [if_pos idle] at still
      cases still
    · rw [if_neg idle] at still ⊢
      exact ⟨nofun, still, by simp [bytesOf]⟩
  | finish => cases still
  | closed => cases still

theorem oversizeIn_cons {item : Item} {items : List Item}
    (still : (connection.move item.single).1.phase = .handshake)
    (later : OversizeIn (connection.move item.single).1 items) :
    OversizeIn connection (item :: items) := by
  obtain ⟨calls, _, gathered⟩ := move_handshake item still
  rw [gathered] at later
  obtain ⟨before, head, after, place, split, quiet, small, found, large, accepted⟩ := later
  have bytesBefore : connection.inbox ++ bytesOf (item :: before) =
      connection.inbox ++ bytesOf [item] ++ bytesOf before := by
    rw [List.append_assoc, ← bytesOf_append]
    rfl
  refine ⟨item :: before, head, after, place, by rw [split]; rfl, ?_, ?_, ?_, large, ?_⟩
  · intro other member
    rcases List.mem_cons.mp member with rfl | member
    · exact calls
    · exact quiet other member
  · rw [bytesBefore]
    exact small
  · rw [bytesBefore]
    exact found
  · rw [bytesBefore]
    exact accepted

theorem Oversize.inStream {first second : List UInt8} (waits : connection.Waits)
    (large : connection.Oversize first second) (items : List Item) :
    OversizeIn connection ((first ++ second).map .byte ++ items) := by
  obtain ⟨handshake, large, cut, place, found, accepted⟩ := large
  have small : connection.inbox.length ≤ maxHead := by
    rcases waits with done | ⟨_, _, small⟩ | ⟨after, _⟩
    · rw [handshake] at done
      cases done
    · exact small
    · exact absurd handshake after
  have past : maxHead < place + 3 := by
    by_contra early
    have four : (bytes "\r\n\r\n").length = 4 := by decide
    rw [← List.append_assoc] at found
    have inside := find_within found (by omega)
    rw [cut] at inside
    cases inside
  refine ⟨[], first ++ second, items, place, rfl, nofun, ?_, ?_, past, ?_⟩
  · simpa [bytesOf] using small
  · simpa [bytesOf] using found
  · simpa [bytesOf] using accepted

theorem feed_singles (waits : connection.Waits) (arrived : List UInt8) (items : List Item)
    (fits : connection.phase = .handshake →
      ¬ OversizeIn connection (arrived.map .byte ++ items)) :
    let each := connection.run ((arrived.map Item.byte).map Item.single)
    Alike (connection.feed arrived).1 each.1 ∧ (connection.feed arrived).2.observed = each.2 ∧
      each.1.Waits ∧ (each.1.phase = .handshake → ¬ OversizeIn each.1 items) := by
  induction arrived generalizing connection with
  | nil =>
    obtain ⟨alike, step⟩ := feed_nil waits
    refine ⟨alike, ?_, waits, fits⟩
    rw [step]
    rfl
  | cons byte arrived ih =>
    have whole : ¬ connection.Oversize [byte] arrived := fun large =>
      fits large.1 (large.inStream waits items)
    obtain ⟨alike, steps⟩ := feed_append connection [byte] arrived whole
    obtain ⟨rest, seen, waitsLast, fitsLast⟩ := ih (waits.move (.bytes [byte]))
      (fun still large => fits (move_handshake (.byte byte) still).2.1
        (@oversizeIn_cons _ _ (.byte byte) _ still large))
    refine ⟨alike.trans rest, ?_, waitsLast, fitsLast⟩
    have once : (connection.feed [byte]).2.outcome.isSome = true →
        ((connection.feed [byte]).1.feed arrived).2.outcome = none :=
      fun told => feed_settled (feed_settles connection [byte] told) arrived
    rw [List.singleton_append] at steps
    rw [steps, Step.then_observed once]
    exact congrArg _ seen

theorem run_singles (waits : connection.Waits) (moves : List Move)
    (fits : connection.phase = .handshake → ¬ OversizeIn connection (stream moves)) :
    (connection.run moves).2 = (connection.run ((stream moves).map Item.single)).2 := by
  induction moves generalizing connection with
  | nil => rfl
  | cons move moves ih =>
    have call : ∀ item : Item, item.single = move → stream (move :: moves) = item :: stream moves →
        (connection.run (move :: moves)).2 =
          (connection.run ((stream (move :: moves)).map Item.single)).2 := by
      intro item same split
      rw [split, List.map_cons, same]
      refine congrArg (Observed.then _) (ih (waits.move move) ?_)
      intro still large
      rw [← same] at still large
      rw [split] at fits
      exact fits (move_handshake item still).2.1 (oversizeIn_cons still large)
    cases move with
    | bytes arrived =>
      obtain ⟨alike, seen, waitsLast, fitsLast⟩ := feed_singles waits arrived (stream moves) fits
      have rest := (alike.run moves).2.trans (ih waitsLast fitsLast)
      rw [stream, List.map_append, run_append, ← seen, ← rest]
      rfl
    | send id request => exact call (.send id request) rfl rfl
    | finish => exact call .finish rfl rfl
    | closed => exact call .closed rfl rfl

theorem run_gathers (handshake : connection.phase = .handshake) (items : List Item)
    (calls : ∀ item ∈ items, ¬ item.Ends)
    (waiting : find (bytes "\r\n\r\n") (connection.inbox ++ bytesOf items) = none)
    (small : (connection.inbox ++ bytesOf items).length ≤ maxHead) :
    connection.run (items.map Item.single) =
      ({ connection with inbox := connection.inbox ++ bytesOf items }, {}) := by
  induction items generalizing connection with
  | nil => simp [run, bytesOf]
  | cons item items ih =>
    have callsRest : ∀ item ∈ items, ¬ item.Ends :=
      fun other member => calls other (List.mem_cons_of_mem _ member)
    cases item with
    | byte arrived =>
      have split : connection.inbox ++ bytesOf (.byte arrived :: items) =
          connection.inbox ++ [arrived] ++ bytesOf items := by simp [bytesOf]
      rw [split] at waiting small ⊢
      have cut : find (bytes "\r\n\r\n") (connection.inbox ++ [arrived]) = none := by
        cases found : find (bytes "\r\n\r\n") (connection.inbox ++ [arrived]) with
        | none => rfl
        | some =>
          rw [find_append found] at waiting
          cases waiting
      have few : ¬ maxHead < (connection.inbox ++ [arrived]).length := by
        rw [List.length_append] at small
        omega
      have fed : connection.move (.bytes [arrived]) =
          ({ connection with inbox := connection.inbox ++ [arrived] }, {}) := by
        rw [move, feed_waiting handshake cut, if_neg few]
      rw [List.map_cons, Item.single, run, fed]
      dsimp only
      rw [@ih { connection with inbox := connection.inbox ++ [arrived] } handshake callsRest
        waiting small]
      rfl
    | send id request =>
      have kept : connection.move (.send id request) = (connection, {}) := by
        rw [move, send, if_neg (by rw [handshake]; rintro ⟨⟩)]
      rw [List.map_cons, Item.single, run, kept]
      dsimp only
      rw [ih handshake callsRest waiting small]
      rfl
    | finish | closed => exact absurd trivial (calls _ List.mem_cons_self)

theorem answer_ne_refusal (key : List Char) (first second : List UInt8) :
    switching key ++ first ≠
      bytes "HTTP/1.1 403 Forbidden\r\nContent-Length: 0\r\nConnection: close\r\n\r\n" ++
        second := by
  intro same
  have firsts := congrArg (List.take 10) same
  simp only [switching, List.append_assoc] at firsts
  rw [List.take_append_of_le_length (by decide), List.take_append_of_le_length (by decide)]
    at firsts
  exact absurd firsts (by decide)

theorem accept_answers {head origin : List Char} {response : List UInt8}
    (accepted : accept head origin = some response) :
    ∃ key, (readHead head).2.key = some key ∧ response = switching key := by
  simp only [accept] at accepted
  split at accepted
  · cases accepted
  split at accepted
  · cases accepted
  · obtain ⟨key, named, same⟩ := Option.map_eq_some_iff.mp accepted
    exact ⟨key, named, same.symm⟩

theorem oversize_disagrees (handshake : connection.phase = .handshake) {items : List Item}
    (large : OversizeIn connection items) :
    ∃ first second, stream first = items ∧ stream second = items ∧
      (connection.run first).2 ≠ (connection.run second).2 := by
  obtain ⟨before, head, after, place, rfl, calls, small, found, past, accepted⟩ := large
  have four : (bytes "\r\n\r\n").length = 4 := by decide
  generalize gathered : connection.inbox ++ bytesOf before = inbox at small found accepted
  have waiting : find (bytes "\r\n\r\n") inbox = none := find_cut found (by omega)
  have begun := run_gathers handshake before calls (gathered ▸ waiting) (gathered ▸ small)
  rw [gathered] at begun
  let cut := maxHead + 1 - inbox.length
  have inside := find_inside found
  rw [List.length_append] at inside
  have cutLength : (inbox ++ head.take cut).length = maxHead + 1 := by
    rw [List.length_append, List.length_take]
    omega
  have cutWaiting : find (bytes "\r\n\r\n") (inbox ++ head.take cut) = none := by
    have whole : find (bytes "\r\n\r\n") (inbox ++ head.take cut ++ head.drop cut) = some place := by
      rw [List.append_assoc, List.take_append_drop]
      exact found
    exact find_cut whole (by omega)
  refine ⟨before.map Item.single ++ .bytes head :: after.map Item.single,
    before.map Item.single ++ .bytes (head.take cut) :: .bytes (head.drop cut) ::
      after.map Item.single, ?_, ?_, ?_⟩
  · rw [stream_append, stream_singles, stream, stream_singles, List.append_assoc]
  · rw [stream_append, stream_singles, stream, stream, stream_singles, List.append_assoc,
      ← List.append_assoc (List.map _ _), ← List.map_append, List.take_append_drop]
  obtain ⟨response, answered⟩ := Option.isSome_iff_exists.mp accepted
  rw [run_append, run_append, begun]
  intro same
  have writes := congrArg Observed.write same
  simp only [Observed.then, List.nil_append] at writes
  have whole := @feed_accepted _ { connection with inbox } _ _ handshake found _ answered
  have refused := @feed_waiting _ { connection with inbox } _ handshake cutWaiting
  rw [if_pos (by dsimp only; omega)] at refused
  rw [run, run, move, move, whole, refused] at writes
  obtain ⟨key, _, rfl⟩ := accept_answers answered
  simp only [Observed.then, Step.observed, Step.then_write, List.append_assoc] at writes
  exact answer_ne_refusal key _ _ writes

end Connection

/-- Every way to cut a stream shows the shell the same. -/
def CutsAgree [SignerRuntime] (connection : Connection) (items : List Item) : Prop :=
  ∀ first second, stream first = items → stream second = items →
    (connection.run first).2 = (connection.run second).2

/-- What a new connection shows depends on how its stream is cut exactly where the
stream brings an acceptable head past the limit in one stretch. -/
theorem cuts_agree_iff [SignerRuntime] (signerUrl : List Char) (token id : String)
    (request : Value) (items : List Item) :
    CutsAgree (.new signerUrl token id request) items ↔
      ¬ OversizeIn (.new signerUrl token id request) items := by
  have waits : (Connection.new signerUrl token id request).Waits :=
    .inr (.inl ⟨rfl, rfl, Nat.zero_le _⟩)
  constructor
  · intro agree large
    obtain ⟨first, second, cut, cut', differ⟩ := Connection.oversize_disagrees rfl large
    exact differ (agree first second cut cut')
  · intro fits first second cut cut'
    rw [Connection.run_singles waits first (fun _ => cut ▸ fits),
      Connection.run_singles waits second (fun _ => cut' ▸ fits), cut, cut']

def asciiBytes (text : List Char) : List UInt8 := text.map fun letter => UInt8.ofNat letter.toNat

theorem find_line {line : List UInt8} (absent : 13 ∉ line) (rest : List UInt8) :
    find (bytes "\r\n\r\n") (line ++ rest) =
      (find (bytes "\r\n\r\n") rest).map (· + line.length) := by
  induction line with
  | nil => simp
  | cons byte line ih =>
    have different : ¬ (13 : UInt8) = byte := fun same => absent (same ▸ List.mem_cons_self)
    have notHere : ¬ (bytes "\r\n\r\n").isPrefixOf (byte :: (line ++ rest)) = true := by
      have four : bytes "\r\n\r\n" = [13, 10, 13, 10] := by decide
      simp [four, List.isPrefixOf, different]
    rw [List.cons_append, find, if_neg notHere,
      ih fun member => absent (List.mem_cons_of_mem _ member), Option.map_map]
    refine congrFun (congrArg Option.map ?_) _
    funext place
    simp only [Function.comp, List.length_cons]
    omega

theorem find_break {byte : UInt8} (other : byte ≠ 13) (rest : List UInt8) :
    find (bytes "\r\n\r\n") (13 :: 10 :: byte :: rest) =
      (find (bytes "\r\n\r\n") (byte :: rest)).map (· + 2) := by
  have four : bytes "\r\n\r\n" = [13, 10, 13, 10] := by decide
  have different : ¬ (13 : UInt8) = byte := fun same => other same.symm
  have first : ¬ [13, 10, 13, 10].isPrefixOf (13 :: 10 :: byte :: rest) = true := by
    simp [List.isPrefixOf, different]
  have second : ¬ [13, 10, 13, 10].isPrefixOf (10 :: byte :: rest) = true := by
    simp [List.isPrefixOf]
  rw [four, find, if_neg first, find, if_neg second, Option.map_map]
  rfl

theorem find_lines {lines : List (List Char)}
    (whole : ∀ other ∈ line :: lines, 13 ∉ asciiBytes other ∧ other ≠ []) :
    find (bytes "\r\n\r\n")
        (asciiBytes (Chars.joinPairs '\r' '\n' (line :: lines)) ++ bytes "\r\n\r\n") =
      some (Chars.joinPairs '\r' '\n' (line :: lines)).length := by
  have four : bytes "\r\n\r\n" = [13, 10, 13, 10] := by decide
  induction lines generalizing line with
  | nil =>
    rw [Chars.joinPairs, find_line (whole line List.mem_cons_self).1]
    have here : find (bytes "\r\n\r\n") (bytes "\r\n\r\n") = some 0 := by
      rw [four]
      decide
    rw [here]
    simp [asciiBytes]
  | cons next lines ih =>
    have later := ih fun other member => whole other (List.mem_cons_of_mem _ member)
    have wholeNext := whole next (List.mem_cons_of_mem _ List.mem_cons_self)
    have split : Chars.joinPairs '\r' '\n' (line :: next :: lines) =
        line ++ '\r' :: '\n' :: Chars.joinPairs '\r' '\n' (next :: lines) := rfl
    obtain ⟨letter, letters, rfl⟩ := List.exists_cons_of_ne_nil wholeNext.2
    obtain ⟨tail, joined⟩ : ∃ tail, Chars.joinPairs '\r' '\n' ((letter :: letters) :: lines) =
        letter :: tail := by
      cases lines with
      | nil | cons _ _ => exact ⟨_, rfl⟩
    have other : UInt8.ofNat letter.toNat ≠ 13 := fun same =>
      wholeNext.1 (List.mem_map.mpr ⟨letter, List.mem_cons_self, same⟩)
    rw [joined] at later
    have spelled : asciiBytes (line ++ '\r' :: '\n' :: letter :: tail) ++ bytes "\r\n\r\n" =
        asciiBytes line ++ 13 :: 10 :: (asciiBytes (letter :: tail) ++ bytes "\r\n\r\n") := by
      simp [asciiBytes]
    have broken := find_break other (asciiBytes tail ++ bytes "\r\n\r\n")
    rw [split, joined, spelled, find_line (whole line List.mem_cons_self).1]
    refine (congrArg (Option.map _) (broken.trans (congrArg (Option.map _) later))).trans ?_
    simp only [Option.map_some, List.length_append, List.length_cons, asciiBytes, List.length_map]
    congr 1
    omega

/-- An upgrade from the page with one line more, of as many letters as are asked. -/
def longLines (filler : Nat) : List (List Char) :=
  ["Upgrade: websocket".toList, "Sec-WebSocket-Key: x".toList, "Origin: https://s".toList,
    List.replicate filler 'a']

/-- Its head, up to the empty line. -/
def longHead (filler : Nat) : List Char :=
  Chars.joinPairs '\r' '\n' ("GET / HTTP/1.1".toList :: longLines filler)

theorem plain_of_all
    (all : line.all (fun letter => letter != '\r' && decide (letter.toNat < 0x80)) = true) :
    ∀ letter ∈ line, letter ≠ '\r' ∧ letter.toNat < 0x80 := by
  simpa [List.all_eq_true] using all

theorem longHead_lines {filler : Nat}
    (member : line ∈ "GET / HTTP/1.1".toList :: longLines filler) :
    line = List.replicate filler 'a' ∨
      (∀ letter ∈ line, letter ≠ '\r' ∧ letter.toNat < 0x80) ∧ 13 ∉ asciiBytes line ∧ line ≠ [] := by
  simp only [longLines, List.mem_cons, List.not_mem_nil, or_false] at member
  rcases member with rfl | rfl | rfl | rfl | rfl
  · exact .inr ⟨plain_of_all (by decide), by decide, by decide⟩
  · exact .inr ⟨plain_of_all (by decide), by decide, by decide⟩
  · exact .inr ⟨plain_of_all (by decide), by decide, by decide⟩
  · exact .inr ⟨plain_of_all (by decide), by decide, by decide⟩
  · exact .inl rfl

theorem readHead_long (filler : Nat) :
    readHead (longHead filler) = ("GET / HTTP/1.1".toList,
      { key := some ['x'], upgrade := true, origin := some "https://s".toList }) := by
  have absent : ∀ line ∈ "GET / HTTP/1.1".toList :: longLines filler, '\r' ∉ line := by
    intro line member
    rcases longHead_lines member with rfl | plain
    · exact fun member => absurd (List.eq_of_mem_replicate member) (by decide)
    · exact fun member => (plain.1 _ member).1 rfl
  have ignored : ∀ read : Upgrade, read.withLine (List.replicate filler 'a') = read := by
    intro read
    have colon : ':' ∉ List.replicate filler 'a' := fun member =>
      absurd (List.eq_of_mem_replicate member) (by decide)
    rw [Upgrade.withLine, Chars.splitOnce_absent colon]
  rw [readHead, longHead, Chars.splitPairs_join '\n' absent]
  dsimp only
  rw [longLines, List.foldl_cons, List.foldl_cons, List.foldl_cons, List.foldl_cons, ignored]
  exact congrArg _ (by decide)

theorem longHead_length (filler : Nat) : filler ≤ (longHead filler).length := by
  simp only [longHead, longLines, Chars.joinPairs, List.length_append, List.length_cons,
    List.length_replicate]
  omega

theorem longHead_ascii (filler : Nat) : ∀ letter ∈ longHead filler, letter.toNat < 0x80 := by
  have plain : ∀ line ∈ "GET / HTTP/1.1".toList :: longLines filler,
      ∀ letter ∈ line, letter.toNat < 0x80 := by
    intro line member letter inLine
    rcases longHead_lines member with rfl | plain
    · rw [List.eq_of_mem_replicate inLine]
      decide
    · exact (plain.1 letter inLine).2
  simp only [longHead, longLines, Chars.joinPairs]
  simp only [longLines, List.forall_mem_cons] at plain
  obtain ⟨first, second, third, fourth, last, _⟩ := plain
  simp only [List.forall_mem_append, List.forall_mem_cons]
  exact ⟨first, by decide, by decide, second, by decide, by decide, third, by decide, by decide,
    fourth, by decide, by decide, last⟩

/-- A head past the limit: answered in one piece, refused in two. -/
theorem longHead_disagrees :
    ¬ ∀ signerUrl token id request items,
      @CutsAgree bareRuntime (@Connection.new bareRuntime.toWriter signerUrl token id request)
        items := by
  intro agree
  let runtime := bareRuntime
  have whole : ∀ line ∈ "GET / HTTP/1.1".toList :: longLines 16384,
      13 ∉ asciiBytes line ∧ line ≠ [] := by
    intro line member
    rcases longHead_lines member with rfl | plain
    · refine ⟨fun found => ?_, by rw [List.replicate_succ]; exact nofun⟩
      obtain ⟨letter, inLine, same⟩ := List.mem_map.mp found
      rw [List.eq_of_mem_replicate inLine] at same
      exact absurd same (by decide)
    · exact plain.2
  have found := find_lines whole
  have accepted : accept (longHead 16384) "https://s".toList = some (switching ['x']) := by
    simp only [accept, readHead_long]
    rw [if_neg (by decide), if_neg (by decide)]
    rfl
  have large : OversizeIn (Connection.new "https://s/sign".toList "token" "1" .null)
      ((asciiBytes (longHead 16384) ++ bytes "\r\n\r\n").map .byte) := by
    refine ⟨[], asciiBytes (longHead 16384) ++ bytes "\r\n\r\n", [], (longHead 16384).length,
      (List.append_nil _).symm, nofun, Nat.zero_le _, found, ?_, ?_⟩
    · have long := longHead_length 16384
      have limit : maxHead = 16384 := rfl
      omega
    · have spelled : (asciiBytes (longHead 16384)).length = (longHead 16384).length :=
        List.length_map _
      have head : ([] ++ bytesOf [] ++ (asciiBytes (longHead 16384) ++ bytes "\r\n\r\n")).take
          (longHead 16384).length = asciiBytes (longHead 16384) :=
        List.take_left' spelled
      have origin : originOf "https://s/sign".toList = "https://s".toList := by decide
      refine Option.isSome_iff_exists.mpr ⟨switching ['x'], ?_⟩
      refine Eq.trans ?_ accepted
      refine congr (congrArg accept ?_) origin
      refine (congrArg Chars.fromUtf8Lossy head).trans ?_
      exact Chars.fromUtf8Lossy_map (longHead_ascii 16384)
  obtain ⟨first, second, cut, cut', differ⟩ := Connection.oversize_disagrees rfl large
  exact differ (agree _ _ _ _ _ first second cut cut')

end VelaWallet.TrustedSigner

import Sentential.Enumeration.Session
import Sentential.Proofs.EnumerationSteps

/-!
# Sessions and cursors

All that a session has to know of the assignments to its names is the index of the next one. A
cursor holds this index, and the index kept last, and answers every request with assignments that
are built from indices alone. It never walks a decision tree.

A session gives the replies of a cursor, whatever it is asked for. Each request is answered alike in
states that correspond, and leads to states that correspond again; so the same holds of any number
of requests.
-/

namespace Sentential

/-- The index of the next assignment, and the index kept last, if one was kept. -/
structure Cursor where
  place : Nat
  kept : Option Nat
deriving DecidableEq

namespace Cursor

/-- The cursor before the first assignment. -/
def start : Cursor := ⟨0, none⟩

/-- The answer to one request and the cursor after it. A cursor never passes the number of all
assignments. That an index within this number had no assignment would be a breach of contract, and
would be handed on. -/
def answer (names : List String) (cursor : Cursor) :
    Step → Except ContractViolation (Reply × Cursor)
  | .next =>
    if cursor.place < 2 ^ names.length then
      (Assignment.ofIndex names cursor.place).map fun found =>
        (.assignment (some found), { cursor with place := cursor.place + 1 })
    else .ok (.assignment none, cursor)
  | .display =>
    if cursor.place < 2 ^ names.length then
      (Assignment.ofIndex names cursor.place).map fun found =>
        (.text (some found.text), { cursor with place := cursor.place + 1 })
    else .ok (.text none, cursor)
  | .nth skipped =>
    if cursor.place + skipped < 2 ^ names.length then
      (Assignment.ofIndex names (cursor.place + skipped)).map fun found =>
        (.assignment (some found), { cursor with place := cursor.place + skipped + 1 })
    else .ok (.assignment none, { cursor with place := 2 ^ names.length })
  | .take count =>
    let stop := min (cursor.place + count) (2 ^ names.length)
    ((List.range' cursor.place (stop - cursor.place)).mapM (Assignment.ofIndex names)).map
      fun found => (.several found, { cursor with place := stop })
  | .count =>
    .ok (.number (2 ^ names.length - cursor.place), { cursor with place := 2 ^ names.length })
  | .last =>
    if cursor.place < 2 ^ names.length then
      (Assignment.ofIndex names (2 ^ names.length - 1)).map fun found =>
        (.assignment (some found), { cursor with place := 2 ^ names.length })
    else .ok (.assignment none, { cursor with place := 2 ^ names.length })
  | .sizeHint => .ok (.nothing, cursor)
  | .save => .ok (.nothing, { cursor with kept := some cursor.place })
  | .restore => .ok (.nothing, { cursor with place := cursor.kept.getD cursor.place })

/-- The replies to a sequence of requests. -/
def replies (names : List String) (cursor : Cursor) :
    List Step → Except ContractViolation (List Reply)
  | [] => .ok []
  | step :: further =>
    match cursor.answer names step with
    | .error violation => .error violation
    | .ok (reply, after) => (after.replies names further).map (reply :: ·)

end Cursor

namespace Session

/-- A session and a cursor correspond if as many assignments have been handed out as the index of
the next one says, in the present state and in the one kept last. -/
structure Follows (names : List String) (cursor : Cursor) (session : Session) : Prop where
  present : session.enumeration = .reached names cursor.place
  bounded : cursor.place ≤ 2 ^ names.length
  kept : session.kept = cursor.kept.map (Enumeration.reached names)
  keptBounded : ∀ place ∈ cursor.kept, place ≤ 2 ^ names.length

/-- A cursor that is moved still corresponds to a session that has handed out as many. -/
theorem Follows.moved {names : List String} {cursor : Cursor} {session : Session}
    (follows : Follows names cursor session) (place : Nat) (bounded : place ≤ 2 ^ names.length) :
    Follows names { cursor with place } { session with enumeration := .reached names place } :=
  ⟨rfl, bounded, follows.kept, follows.keptBounded⟩

/-- Before the first assignment, session and cursor correspond. -/
theorem follows_start (names : List String) : Follows names .start (ofNames names) where
  present := Enumeration.ofNames_eq_reached names
  bounded := Nat.zero_le _
  kept := rfl
  keptBounded := by
    intro place impossible
    exact absurd impossible (Option.not_mem_none place)

/-- A request is answered alike by a session and a cursor that correspond, and they correspond
again after it. -/
theorem answer_follows {names : List String} (narrow : names.length ≤ indexWidth)
    {cursor : Cursor} {session : Session} (follows : Follows names cursor session) (step : Step) :
    ∃ after, cursor.answer names step = .ok ((session.answer step).1, after) ∧
      Follows names after (session.answer step).2 := by
  obtain ⟨enumeration, kept⟩ := session
  have present : enumeration = .reached names cursor.place := follows.present
  have bounded : cursor.place ≤ 2 ^ names.length := follows.bounded
  subst present
  cases step with
  | next | display =>
    rcases Enumeration.nth?_zero_cases names narrow cursor.place bounded with
      ⟨inside, assignment, indexed, found⟩ | ⟨ended, missed⟩
    · refine ⟨{ cursor with place := cursor.place + 1 }, ?_, ?_⟩
      · rw [Cursor.answer, if_pos inside, answer, found, indexed]
        rfl
      · rw [answer, found]
        exact follows.moved _ inside
    · have outside : ¬ cursor.place < 2 ^ names.length := Nat.not_lt.mpr (Nat.le_of_eq ended.symm)
      refine ⟨cursor, ?_, ?_⟩
      · simp only [Cursor.answer, if_neg outside, answer, missed, Option.map_none]
      · rw [answer, missed]
        exact follows
  | nth skipped =>
    rcases Enumeration.nth?_cases names narrow skipped cursor.place bounded with
      ⟨inside, assignment, indexed, found⟩ | ⟨beyond, missed⟩
    · refine ⟨{ cursor with place := cursor.place + skipped + 1 }, ?_, ?_⟩
      · rw [Cursor.answer, if_pos inside, answer, found, indexed]
        rfl
      · rw [answer, found]
        exact follows.moved _ inside
    · refine ⟨{ cursor with place := 2 ^ names.length }, ?_, ?_⟩
      · rw [Cursor.answer, if_neg (Nat.not_lt.mpr beyond), answer, missed]
      · rw [answer, missed]
        exact follows.moved _ (Nat.le_refl _)
  | take count =>
    have stop : min (cursor.place + count) (2 ^ names.length) ≤ 2 ^ names.length :=
      Nat.min_le_right _ _
    have indexed := Enumeration.mapM_ofIndex names narrow cursor.place
      (min (cursor.place + count) (2 ^ names.length) - cursor.place) (by omega)
    have taken := Enumeration.takeOnto_reached names [] count cursor.place bounded
    refine ⟨{ cursor with place := min (cursor.place + count) (2 ^ names.length) }, ?_, ?_⟩
    · simp only [Cursor.answer, indexed, answer, Enumeration.take, taken]
      rfl
    · simp only [answer, Enumeration.take, taken]
      exact follows.moved _ stop
  | count =>
    have counted := Enumeration.count_reached names cursor.place bounded
    refine ⟨{ cursor with place := 2 ^ names.length }, ?_, ?_⟩
    · rw [Cursor.answer, answer, counted]
    · rw [answer, counted]
      exact follows.moved _ (Nat.le_refl _)
  | last =>
    refine ⟨{ cursor with place := 2 ^ names.length }, ?_⟩
    by_cases inside : cursor.place < 2 ^ names.length
    · have indexed := Assignment.ofIndex_eq_ok names (2 ^ names.length - 1) narrow (by omega)
      have found := Enumeration.last?_reached names cursor.place inside
      constructor
      · rw [Cursor.answer, if_pos inside, answer, indexed, found]
        rfl
      · rw [answer, found]
        exact follows.moved _ (Nat.le_refl _)
    · have ended : cursor.place = 2 ^ names.length := by omega
      have missed := Enumeration.last?_reached_end names
      constructor
      · rw [Cursor.answer, if_neg inside, answer, ended, missed]
      · rw [answer, ended, missed]
        exact follows.moved _ (Nat.le_refl _)
  | sizeHint => exact ⟨cursor, rfl, follows⟩
  | save =>
    refine ⟨{ cursor with kept := some cursor.place }, rfl, rfl, bounded, rfl, ?_⟩
    rintro place ⟨⟩
    exact bounded
  | restore =>
    refine ⟨{ cursor with place := cursor.kept.getD cursor.place }, rfl, ?_⟩
    obtain ⟨place, keptPlace⟩ := cursor
    have same : kept = keptPlace.map (Enumeration.reached names) := follows.kept
    subst same
    cases keptPlace with
    | none => exact follows
    | some former => exact follows.moved former (follows.keptBounded former rfl)

/-- The replies of a session are those of a cursor that corresponds to it.

Induct on the requests: the first one is answered alike, and leads to states that correspond. -/
theorem replies_follow {names : List String} (narrow : names.length ≤ indexWidth)
    {cursor : Cursor} {session : Session} (follows : Follows names cursor session)
    (steps : List Step) :
    cursor.replies names steps = .ok ((session.run steps).map Prod.fst) := by
  induction steps generalizing cursor session with
  | nil => rfl
  | cons step further inductionHypothesis =>
    obtain ⟨after, answered, followsAfter⟩ := answer_follows narrow follows step
    rw [Cursor.replies, answered]
    simp only
    rw [inductionHypothesis followsAfter]
    rfl

/-- The session after a sequence of requests. -/
def after (session : Session) (steps : List Step) : Session :=
  steps.foldl (fun session step => (session.answer step).2) session

/-- Requests may be made in two goes. -/
theorem after_append (session : Session) (earlier later : List Step) :
    session.after (earlier ++ later) = (session.after earlier).after later :=
  List.foldl_append

/-- No request leads away from a state that corresponds to some cursor. -/
theorem follows_after {names : List String} (narrow : names.length ≤ indexWidth)
    {cursor : Cursor} {session : Session} (follows : Follows names cursor session)
    (steps : List Step) : ∃ cursor, Follows names cursor (session.after steps) := by
  induction steps generalizing cursor session with
  | nil => exact ⟨cursor, follows⟩
  | cons step further inductionHypothesis =>
    obtain ⟨_, _, followsAfter⟩ := answer_follows narrow follows step
    exact inductionHypothesis followsAfter

/-- There is no next assignment only where all have been handed out. -/
theorem Follows.ended {names : List String} (narrow : names.length ≤ indexWidth)
    {cursor : Cursor} {session : Session} (follows : Follows names cursor session)
    (missed : (session.answer .next).1 = .assignment none) :
    session.enumeration = .reached names (2 ^ names.length) := by
  rcases Enumeration.nth?_zero_cases names narrow cursor.place follows.bounded with
    ⟨_, assignment, _, found⟩ | ⟨ended, _⟩
  · rw [answer, follows.present, found] at missed
    simp at missed
  · rw [follows.present, ended]

/-- At the end, no request but that to return to a kept state makes any difference. -/
theorem answer_at_end {names : List String} {session : Session}
    (ended : session.enumeration = .reached names (2 ^ names.length)) {step : Step}
    (stays : step ≠ .restore) :
    (session.answer step).2.enumeration = .reached names (2 ^ names.length) := by
  have missed : ∀ skipped, Enumeration.nth? skipped (.reached names (2 ^ names.length))
      = (none, .reached names (2 ^ names.length)) := by
    intro skipped
    exact Enumeration.nth?_reached_end names skipped _ (Nat.le_refl _) (Nat.le_add_right _ _)
  cases step with
  | next | display | nth skipped => rw [answer, ended, missed]
  | take count =>
    have stop : min (2 ^ names.length + count) (2 ^ names.length) = 2 ^ names.length := by omega
    rw [answer, ended, Enumeration.take,
      Enumeration.takeOnto_reached names [] count _ (Nat.le_refl _), stop]
  | count => rw [answer, ended, Enumeration.count_reached names _ (Nat.le_refl _)]
  | last => rw [answer, ended, Enumeration.last?_reached_end]
  | sizeHint | save => exact ended
  | restore => exact absurd rfl stays

/-- An exhausted session stays exhausted until it returns to a kept state. -/
theorem after_at_end {names : List String} {session : Session}
    (ended : session.enumeration = .reached names (2 ^ names.length)) (steps : List Step)
    (stays : .restore ∉ steps) :
    (session.after steps).enumeration = .reached names (2 ^ names.length) := by
  induction steps generalizing session with
  | nil => exact ended
  | cons step further inductionHypothesis =>
    have first : step ≠ .restore := (List.ne_of_not_mem_cons stays).symm
    have others : .restore ∉ further := List.not_mem_of_not_mem_cons stays
    exact inductionHypothesis (answer_at_end ended first) others

/-- A session refines a cursor. For fewer names than an index has bits, every assignment that the
cursor asks for by its index exists, and the replies to any sequence of requests are those of the
cursor. Once there is no next assignment, there is none for good, unless a request returns to a kept
state. -/
theorem run_refines_cursor (names : List String) (few : names.length < indexWidth) :
    (∀ steps, Cursor.start.replies names steps
      = .ok (((ofNames names).run steps).map Prod.fst)) ∧
    (∀ earlier later, (((ofNames names).after earlier).answer .next).1 = .assignment none →
      .restore ∉ later →
      (((ofNames names).after (earlier ++ later)).answer .next).1 = .assignment none) := by
  have narrow : names.length ≤ indexWidth := Nat.le_of_lt few
  refine ⟨replies_follow narrow (follows_start names), ?_⟩
  intro earlier later missed stays
  obtain ⟨cursor, follows⟩ := follows_after narrow (follows_start names) earlier
  have ended := after_at_end (follows.ended narrow missed) later stays
  rw [after_append, answer, ended,
    Enumeration.nth?_reached_end names 0 _ (Nat.le_refl _) (Nat.le_refl _)]

/-- Two names of one spelling have four assignments. The second is kept as the next while the
session goes on to the end; returning to it, the session goes on from there. A session that has
taken all four has none left after further requests either. -/
theorem run_with_return :
    ["p", "p"].length < indexWidth ∧
    ((ofNames ["p", "p"]).run [.next, .save, .nth 1, .display, .next, .count, .restore, .take 5,
        .last]).map Prod.fst
      = [.assignment (some ⟨[("p", false), ("p", false)]⟩), .nothing,
          .assignment (some ⟨[("p", true), ("p", false)]⟩), .text (some "p=T p=T"),
          .assignment none, .number 0, .nothing,
          .several [⟨[("p", false), ("p", true)]⟩, ⟨[("p", true), ("p", false)]⟩,
            ⟨[("p", true), ("p", true)]⟩],
          .assignment none] ∧
    (((ofNames ["p", "p"]).after [.take 4, .save, .count, .last]).answer .next).1
      = .assignment none := by
  have few : ["p", "p"].length < indexWidth := by decide
  have refined := (run_refines_cursor ["p", "p"] few).1 [.next, .save, .nth 1, .display, .next,
    .count, .restore, .take 5, .last]
  refine ⟨few, Except.ok.inj (refined.symm.trans rfl), ?_⟩
  exact (run_refines_cursor ["p", "p"] few).2 [.take 4] [.save, .count, .last] rfl (by decide)

end Session

end Sentential

import Sentential.Enumeration

/-!
# Sessions with an enumeration

A session drives one enumeration by a sequence of steps and can keep a copy of its state to
return to. Since a state is a value, keeping and returning cost nothing and a kept copy is not
affected by later steps: it may be returned to any number of times.
-/

namespace Sentential

/-- A request to a session. -/
inductive Step where
  /-- The next assignment. -/
  | next
  /-- The text of the next assignment. -/
  | display
  /-- The assignment after the given number of others. -/
  | nth (skipped : Nat)
  /-- The given number of assignments. -/
  | take (count : Nat)
  /-- The number of all that are left. -/
  | count
  /-- The last one that is left. -/
  | last
  /-- Nothing; only the size estimate is asked for. -/
  | sizeHint
  /-- Keep a copy of the state. -/
  | save
  /-- Return to the copy kept last. -/
  | restore
deriving DecidableEq

/-- The answer to a request. -/
inductive Reply where
  | assignment (found : Option Assignment)
  | text (shown : Option String)
  | several (found : List Assignment)
  | number (count : Nat)
  | nothing
deriving DecidableEq

/-- An enumeration in use and the copy of it kept last, if one was kept. -/
structure Session where
  enumeration : Enumeration
  kept : Option Enumeration
deriving DecidableEq

namespace Session

/-- The session that begins with the first assignment to the given names. -/
def ofNames (names : List String) : Session := ⟨Enumeration.ofNames names, none⟩

/-- The answer to one request and the session after it. Returning without a kept copy changes
nothing. -/
def answer (session : Session) : Step → Reply × Session
  | .next =>
    let (found, enumeration) := session.enumeration.nth? 0
    (.assignment found, { session with enumeration })
  | .display =>
    let (found, enumeration) := session.enumeration.nth? 0
    (.text (found.map Assignment.text), { session with enumeration })
  | .nth skipped =>
    let (found, enumeration) := session.enumeration.nth? skipped
    (.assignment found, { session with enumeration })
  | .take count =>
    let (found, enumeration) := session.enumeration.take count
    (.several found, { session with enumeration })
  | .count =>
    let (count, enumeration) := session.enumeration.count
    (.number count, { session with enumeration })
  | .last =>
    let (found, enumeration) := session.enumeration.last?
    (.assignment found, { session with enumeration })
  | .sizeHint => (.nothing, session)
  | .save => (.nothing, { session with kept := some session.enumeration })
  | .restore =>
    (.nothing, { session with enumeration := session.kept.getD session.enumeration })

/-- The answers to a sequence of requests, each with the size estimate after it. -/
def run (session : Session) : List Step → List (Reply × Nat × Option Nat)
  | [] => []
  | step :: further =>
    let (reply, after) := session.answer step
    (reply, after.enumeration.sizeHint) :: after.run further

end Session

end Sentential

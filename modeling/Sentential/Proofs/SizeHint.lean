import Sentential.Proofs.EnumerationSteps
import Sentential.Proofs.Lookup

/-!
# The size hint of an enumeration

An enumeration may be copied at any time, and each copy goes on by itself. The path, the count of
the assignments handed out and the mark of the end are kept apart in the state, but they stay in
step: until the end the path reads as the binary numeral of the count, and the end is marked exactly
when the count is the number of all assignments. So the difference that the size hint is made of is
never negative, and the hint is the number of assignments still to come wherever this number fits.
-/

namespace Sentential

/-- An enumeration in use, and how often it was asked for the next assignment, the times before it
was copied from another one included. -/
structure Copy where
  enumeration : Enumeration
  requests : Nat
deriving DecidableEq

namespace Copy

/-- The enumeration that has not been asked yet. -/
def ofNames (names : List String) : Copy := ⟨.ofNames names, 0⟩

/-- The copy after a request for the next assignment. -/
def asked (copy : Copy) : Copy := ⟨(copy.enumeration.nth? 0).2, copy.requests + 1⟩

/-- The enumeration has handed out as many assignments as were asked for, as far as there are any. -/
def InTime (names : List String) (copy : Copy) : Prop :=
  copy.enumeration = .reached names (min copy.requests (2 ^ names.length))

/-- A request hands out one more assignment, or none at the end. -/
theorem InTime.asked {names : List String} {copy : Copy} (inTime : copy.InTime names) :
    copy.asked.InTime names := by
  change (copy.enumeration.nth? 0).2 = .reached names (min (copy.requests + 1) (2 ^ names.length))
  rw [inTime]
  by_cases inside : copy.requests < 2 ^ names.length
  · have place : min copy.requests (2 ^ names.length) = copy.requests := by omega
    have further : min (copy.requests + 1) (2 ^ names.length) = copy.requests + 1 := by omega
    rw [place, further, Enumeration.nth?_reached names 0 copy.requests inside]
  · have place : min copy.requests (2 ^ names.length) = 2 ^ names.length := by omega
    have further : min (copy.requests + 1) (2 ^ names.length) = 2 ^ names.length := by omega
    rw [place, further, Enumeration.nth?_reached_end names 0 _ (Nat.le_refl _) (Nat.le_refl _)]

/-- A request to one of several copies, given by its place: for its next assignment, or for a copy
of it. -/
inductive Request where
  | next (place : Nat)
  | copy (place : Nat)
deriving DecidableEq

/-- The copies after a request. A request to a place without a copy changes nothing. -/
def serve (copies : List Copy) : Request → List Copy
  | .next place => copies.modify place asked
  | .copy place => copies ++ copies[place]?.toList

/-- The copies after some requests, beginning with a single enumeration. -/
def served (names : List String) (requests : List Request) : List Copy :=
  requests.foldl serve [.ofNames names]

/-- A request to one copy leaves the others as they are, so what asking keeps is kept by all. -/
theorem serve_keeps (property : Copy → Prop)
    (kept : ∀ copy, property copy → property copy.asked) (copies : List Copy)
    (before : ∀ copy ∈ copies, property copy) (request : Request) :
    ∀ copy ∈ serve copies request, property copy := by
  intro copy member
  cases request with
  | next place =>
    obtain ⟨other, found⟩ := List.mem_iff_getElem?.mp member
    rw [serve, List.getElem?_modify] at found
    obtain ⟨former, here, rfl⟩ := Option.map_eq_some_iff.mp found
    have holds := before former (List.mem_of_getElem? here)
    by_cases same : place = other
    · rw [if_pos same]
      exact kept former holds
    · rw [if_neg same]
      exact holds
  | copy place =>
    rcases List.mem_append.mp member with old | new
    · exact before copy old
    · exact before copy (List.mem_of_getElem? (Option.mem_toList.mp new))

/-- Every copy has handed out as many assignments as it was asked for. -/
theorem inTime_of_mem_served (names : List String) (requests : List Request) :
    ∀ copy ∈ served names requests, copy.InTime names := by
  have along : ∀ copies : List Copy, (∀ copy ∈ copies, copy.InTime names) →
      ∀ copy ∈ requests.foldl serve copies, copy.InTime names := by
    induction requests with
    | nil => exact fun _ before => before
    | cons request further inductionHypothesis =>
      intro copies before
      exact inductionHypothesis _
        (serve_keeps (InTime names) (fun _ => InTime.asked) copies before request)
  apply along
  intro copy member
  obtain rfl := List.mem_singleton.mp member
  have start : min 0 (2 ^ names.length) = 0 := Nat.zero_min _
  change Enumeration.ofNames names = .reached names (min 0 (2 ^ names.length))
  rw [start, Enumeration.ofNames_eq_reached]

end Copy

/-- The assignment has one value for each of the names, and looking a name up reads the value in the
first place of the name. -/
structure Assignment.Aligned (names : List String) (assignment : Assignment) : Prop where
  columns : assignment.names = names
  length_values : assignment.values.length = names.length
  found : ∀ name ∈ names, ∃ value, assignment.values[names.idxOf name]? = some value ∧
    assignment.value? name = some value

/-- An assignment is aligned with its own names. -/
theorem Assignment.aligned_names (assignment : Assignment) :
    assignment.Aligned assignment.names where
  columns := rfl
  length_values := assignment.length_values
  found name member := ⟨_, assignment.getElem?_idxOf name member,
    assignment.value?_eq_column name member⟩

namespace Enumeration

/-- The parts of the state belong together. Before the end the path has a branch for each name, and
the branches are the binary digits of the count, the first name having the most significant one. At
the end all assignments are counted. -/
def InStep (names : List String) (enumeration : Enumeration) : Prop :=
  (enumeration.exhausted = false ∧ enumeration.path.length = names.length ∧
    number (enumeration.path.map Prod.snd) = enumeration.emitted ∧
    enumeration.emitted < 2 ^ names.length) ∨
  (enumeration.exhausted = true ∧ enumeration.emitted = 2 ^ names.length)

/-- They do in every state that is reached. -/
theorem reached_inStep (names : List String) (place : Nat) (bounded : place ≤ 2 ^ names.length) :
    (reached names place).InStep names := by
  by_cases inside : place < 2 ^ names.length
  · rw [reached_of_lt names place inside]
    refine .inl ⟨rfl, Path.length_ofIndex names place, ?_, inside⟩
    rw [Path.branches_ofIndex, number_binary _ _ inside]
  · have ended : place = 2 ^ names.length := by omega
    exact .inr ⟨decide_eq_true (Nat.le_of_eq ended.symm), ended⟩

/-- As many assignments are still to come as there are numbers left. -/
theorem length_toList_reached (names : List String) (place : Nat)
    (bounded : place ≤ 2 ^ names.length) :
    (reached names place).toList.length = 2 ^ names.length - place := by
  rw [toList_reached names place _ (Nat.add_sub_of_le bounded), List.length_map, List.length_range']

/-- For fewer names than an index has bits, the hint is the number of assignments still to come, as
long as it can be given. -/
theorem sizeHint_reached (names : List String) (narrow : names.length < indexWidth) (place : Nat)
    (bounded : place ≤ 2 ^ names.length) :
    (reached names place).sizeHint
      = if 2 ^ names.length - place ≤ largestCount then
          (2 ^ names.length - place, some (2 ^ names.length - place))
        else (largestCount, none) := by
  by_cases inside : place < 2 ^ names.length
  · rw [reached_of_lt names place inside, sizeHint, if_neg Bool.false_ne_true]
    simp only [Path.length_ofIndex, narrow, true_and]
  · have ended : place = 2 ^ names.length := by omega
    have marked : (reached names place).exhausted = true :=
      decide_eq_true (Nat.le_of_eq ended.symm)
    rw [sizeHint, if_pos marked, ended, Nat.sub_self, if_pos (Nat.zero_le _)]

/-- For more names there is only a lower bound, as long as the end is not reached. -/
theorem sizeHint_reached_wide (names : List String) (wide : indexWidth ≤ names.length)
    (place : Nat) (inside : place < 2 ^ names.length) :
    (reached names place).sizeHint = (largestCount, none) := by
  have broad : ¬ names.length < indexWidth := Nat.not_lt.mpr wide
  rw [reached_of_lt names place inside, sizeHint, if_neg Bool.false_ne_true]
  simp only [Path.length_ofIndex, broad, false_and, if_false]

/-- What is handed out is aligned with the names. -/
theorem next?_reached_aligned (names : List String) (place : Nat)
    (bounded : place ≤ 2 ^ names.length) (assignment : Assignment) (rest : Enumeration)
    (step : (reached names place).next? = some (assignment, rest)) : assignment.Aligned names := by
  by_cases inside : place < 2 ^ names.length
  · rw [next?_reached names place inside] at step
    obtain ⟨rfl, _⟩ := Prod.mk.inj (Option.some.inj step)
    have aligned := (Assignment.mk (Path.ofIndex names place)).aligned_names
    rwa [Assignment.names, Path.names_ofIndex] at aligned
  · have ended : place = 2 ^ names.length := by omega
    rw [ended, next?_reached_end] at step
    exact absurd step.symm (Option.some_ne_none _)

/-- The size hint is exact, however the copies of an enumeration are used. In every copy the path,
the count and the mark of the end are in step, so the hint never takes more from the number of all
assignments than there are, and what is handed out has one value for each name. For fewer names
than an index has bits, the hint is the number of assignments that further requests will find, if it
can be given as a count; otherwise the largest count is the lower bound and there is no upper one.
That is also the hint for more names, until all but `2 ^ 64` of the first `2 ^ 128` assignments have
been asked for, and that many are left. -/
theorem sizeHint_is_exact (names : List String) (requests : List Copy.Request) :
    ∀ copy ∈ Copy.served names requests,
      (∀ assignment rest, copy.enumeration.next? = some (assignment, rest) →
        assignment.Aligned names) ∧
      (names.length < indexWidth →
        copy.enumeration.InStep names ∧
        (copy.enumeration.exhausted = false →
          copy.enumeration.emitted ≤ 2 ^ copy.enumeration.path.length) ∧
        copy.enumeration.sizeHint
          = if copy.enumeration.toList.length ≤ largestCount then
              (copy.enumeration.toList.length, some copy.enumeration.toList.length)
            else (largestCount, none)) ∧
      (indexWidth ≤ names.length → copy.requests < 2 ^ indexWidth - 2 ^ (64 : Nat) →
        copy.enumeration.emitted < 2 ^ indexWidth ∧
        copy.enumeration.sizeHint = (largestCount, none) ∧
        largestCount ≤ copy.enumeration.toList.length) := by
  intro copy member
  obtain ⟨enumeration, requested⟩ := copy
  have inTime : enumeration = .reached names (min requested (2 ^ names.length)) :=
    Copy.inTime_of_mem_served names requests _ member
  have bounded : min requested (2 ^ names.length) ≤ 2 ^ names.length := Nat.min_le_right _ _
  subst inTime
  refine ⟨next?_reached_aligned names _ bounded, ?_, ?_⟩
  · intro narrow
    have inStep := reached_inStep names _ bounded
    refine ⟨inStep, ?_, ?_⟩
    · intro unfinished
      rcases inStep with ⟨_, levels, _, inside⟩ | ⟨ended, _⟩
      · rw [levels]
        exact Nat.le_of_lt inside
      · exact absurd (unfinished.symm.trans ended) Bool.false_ne_true
    · rw [length_toList_reached names _ bounded]
      exact sizeHint_reached names narrow _ bounded
  · intro wide few
    have all : 2 ^ indexWidth ≤ 2 ^ names.length := Nat.pow_le_pow_right (by decide) wide
    have early : requested < 2 ^ indexWidth - 2 ^ (64 : Nat) := few
    have inside : requested < 2 ^ names.length := by omega
    rw [Nat.min_eq_left (Nat.le_of_lt inside), length_toList_reached names _ (Nat.le_of_lt inside)]
    refine ⟨?_, sizeHint_reached_wide names wide requested inside, ?_⟩
    · change requested < 2 ^ indexWidth
      omega
    · rw [largestCount]
      omega

/-- After one request and a copy, the copy is asked to the end and past it. The original has three
assignments still to come, the copy none. With more names than an index has bits, nothing but the
largest count is known. -/
theorem sizeHint_is_exact_in_copies :
    (["p", "q"].length < indexWidth ∧
      ∃ original ∈ Copy.served ["p", "q"]
          [.next 0, .copy 0, .next 1, .next 1, .next 1, .next 1],
        original.requests = 1 ∧ original.enumeration.sizeHint = (3, some 3) ∧
          original.enumeration.toList.length = 3) ∧
    (∃ copy ∈ Copy.served ["p", "q"] [.next 0, .copy 0, .next 1, .next 1, .next 1, .next 1],
      copy.requests = 5 ∧ copy.enumeration.InStep ["p", "q"] ∧
        copy.enumeration.emitted = 4) ∧
    (indexWidth ≤ (List.replicate 130 "p").length ∧ 1 < 2 ^ indexWidth - 2 ^ (64 : Nat) ∧
      ∃ copy ∈ Copy.served (List.replicate 130 "p") [.next 0],
        copy.requests = 1 ∧ copy.enumeration.sizeHint = (largestCount, none) ∧
          largestCount ≤ copy.enumeration.toList.length) := by
  have narrow : ["p", "q"].length < indexWidth := by decide
  have wide : indexWidth ≤ (List.replicate 130 "p").length := by
    rw [List.length_replicate]
    decide
  have early : 1 < 2 ^ indexWidth - 2 ^ (64 : Nat) := by decide
  refine ⟨⟨narrow, ?_⟩, ?_, wide, early, ?_⟩
  · have member := List.mem_of_getElem? (l := Copy.served ["p", "q"]
      [.next 0, .copy 0, .next 1, .next 1, .next 1, .next 1]) (i := 0) rfl
    obtain ⟨_, below, _⟩ := sizeHint_is_exact _ _ _ member
    obtain ⟨_, _, hint⟩ := below narrow
    have hinted : _ = (3, some 3) := hint.symm.trans rfl
    refine ⟨_, member, rfl, rfl, ?_⟩
    split at hinted
    · exact (Prod.mk.inj hinted).1
    · exact absurd (Prod.mk.inj hinted).2 (Option.some_ne_none 3).symm
  · have member := List.mem_of_getElem? (l := Copy.served ["p", "q"]
      [.next 0, .copy 0, .next 1, .next 1, .next 1, .next 1]) (i := 1) rfl
    obtain ⟨_, below, _⟩ := sizeHint_is_exact _ _ _ member
    exact ⟨_, member, rfl, (below narrow).1, rfl⟩
  · have member : (Copy.ofNames (List.replicate 130 "p")).asked
        ∈ Copy.served (List.replicate 130 "p") [.next 0] := List.mem_singleton_self _
    obtain ⟨_, _, beyond⟩ := sizeHint_is_exact _ _ _ member
    obtain ⟨_, hint, enough⟩ := beyond wide early
    exact ⟨_, member, Nat.zero_add 1, hint, enough⟩

end Enumeration

end Sentential

/-
Walks side by side.

Any number of walks along one listing may be under way at a time, each at its own pace.
`Paged.interleave` does what is asked of them one after the other, and keeps a record of every take,
with what was fetched for it.

A walk keeps nothing but its own place.  So it stands where the number of items that it was asked
for puts it (`Stands`), whatever the other walks were asked for: a take moves it on by what is asked
(`takeOrEnd_stands`) and leaves the others where they are (`Placed.take`), and so does every step
(`interleave_placed`).
-/
import ComputeNodes.Proofs.Listing.Pace

namespace ComputeNodes

/-! ### What is asked of walks -/

/-- Some items that are asked of a walk. -/
structure Take where
  walk : Nat
  count : Nat
  deriving DecidableEq, Repr

/-- One thing that is done with the walks along a listing, which are numbered as they begin. -/
inductive WalkStep where
  | start
  | take (asked : Take)

/-- The takes among some steps, when so many walks are there.  Nothing is taken from a walk that
has not begun. -/
def WalkStep.takes : Nat → List WalkStep → List Take
  | _, [] => []
  | walks, .start :: steps => takes (walks + 1) steps
  | walks, .take asked :: steps =>
    if asked.walk < walks then asked :: takes walks steps else takes walks steps

/-- How many items some takes ask of a walk. -/
def Take.asked (walk : Nat) : List Take → Nat
  | [] => 0
  | take :: takes => (if take.walk = walk then take.count else 0) + asked walk takes

theorem Take.asked_append (walk : Nat) (takes more : List Take) :
    asked walk (takes ++ more) = asked walk takes + asked walk more := by
  induction takes with
  | nil => rw [List.nil_append, asked, Nat.zero_add]
  | cons take takes ih => rw [List.cons_append, asked, asked, ih, Nat.add_assoc]

theorem Take.asked_self (take : Take) : asked take.walk [take] = take.count := by
  simp [asked]

/-- A take with its answer, and what was fetched for it. -/
structure Taking (α : Type) where
  take : Take
  answer : Except Error (Drawn α)
  fetches : List (Value × ListScope)

namespace Taking

variable {α : Type}

/-- How many items a walk was asked for. -/
def asked (walk : Nat) (log : List (Taking α)) : Nat := Take.asked walk (log.map Taking.take)

/-- What was fetched for a walk. -/
def fetched (walk : Nat) (log : List (Taking α)) : List (Value × ListScope) :=
  (log.filter (·.take.walk = walk)).flatMap Taking.fetches

@[simp] theorem asked_nil (walk : Nat) : asked walk ([] : List (Taking α)) = 0 := rfl

@[simp] theorem fetched_nil (walk : Nat) : fetched walk ([] : List (Taking α)) = [] := rfl

variable {taking : Taking α} {walk : Nat}

theorem asked_append (walk : Nat) (log more : List (Taking α)) :
    asked walk (log ++ more) = asked walk log + asked walk more := by
  rw [asked, List.map_append, Take.asked_append, asked, asked]

theorem asked_concat_self (log : List (Taking α)) :
    asked taking.take.walk (log ++ [taking])
      = asked taking.take.walk log + taking.take.count := by
  rw [asked_append, asked, asked, List.map_singleton, Take.asked_self]

theorem asked_concat_ne (log : List (Taking α)) (h : taking.take.walk ≠ walk) :
    asked walk (log ++ [taking]) = asked walk log := by
  have hone : asked walk [taking] = 0 := by simp [asked, Take.asked, h]
  rw [asked_append, hone, Nat.add_zero]

theorem fetched_concat_self (log : List (Taking α)) :
    fetched taking.take.walk (log ++ [taking])
      = fetched taking.take.walk log ++ taking.fetches := by
  simp [fetched]

theorem fetched_concat_ne (log : List (Taking α)) (h : taking.take.walk ≠ walk) :
    fetched walk (log ++ [taking]) = fetched walk log := by
  simp [fetched, h]

end Taking

namespace Act

variable {τ σ ε α : Type}

/-- A computation, with the calls it makes. -/
def withCalls (act : Act τ σ ε α) : Act τ σ ε (α × List ε) := do
  let before := (← get).calls
  let a ← act
  return (a, (← get).calls.drop before.length)

theorem perform_withCalls {act : Act τ σ ε α} {s t : Session τ σ ε} {a : α} {more : List ε}
    (h : act.perform s = (.ok a, t)) (hcalls : t.calls = s.calls ++ more) :
    (withCalls act).perform s = (.ok (a, more), t) := by
  have hget : (get : Act τ σ ε (Session τ σ ε)).perform s = (.ok s, s) := rfl
  have hget' : (get : Act τ σ ε (Session τ σ ε)).perform t = (.ok t, t) := rfl
  rw [withCalls, perform_bind_ok hget, perform_bind_ok h, perform_bind_ok hget', perform_pure,
    hcalls, List.drop_left]

theorem perform_withCalls_error {act : Act τ σ ε α} {s t : Session τ σ ε} {halt : Halt}
    (h : act.perform s = (.error halt, t)) : (withCalls act).perform s = (.error halt, t) := by
  have hget : (get : Act τ σ ε (Session τ σ ε)).perform s = (.ok s, s) := rfl
  rw [withCalls, perform_bind_ok hget, perform_bind_error h]

end Act

namespace Paged

variable {τ σ α : Type}

/-- Does one thing after the other with the walks along a listing. -/
def interleave (listing : Paged τ σ (Value × ListScope) α) (limit : Nat) :
    List WalkStep → List (Cursor α) → Act τ σ (Value × ListScope) (List (Taking α))
  | [], _ => return []
  | .start :: steps, walks => interleave listing limit steps (walks ++ [listing.start])
  | .take asked :: steps, walks =>
    match walks[asked.walk]? with
    | none => interleave listing limit steps walks
    | some cursor => do
      let ((answer, cursor), fetches) ←
        Act.withCalls (listing.takeOrEnd limit asked.count cursor)
      let later ← interleave listing limit steps (walks.set asked.walk cursor)
      return ⟨asked, answer, fetches⟩ :: later

variable {listing : Paged τ σ (Value × ListScope) α} {table : PageTable α}
  {scope : ListScope} {first : ListPage α}

/-! ### All walks -/

/-- Whether walks stand where the takes so far have brought them. -/
structure Placed (table : PageTable α) (scope : ListScope) (first : ListPage α)
    (walks : List (Cursor α)) (past : List (Taking α)) : Prop where
  begun {walk : Nat} {cursor : Cursor α} (there : walks[walk]? = some cursor) :
    ∃ markers, (Taking.fetched walk past = markers.map fun marker => (marker, scope)) ∧
      Stands table first (Taking.asked walk past) markers cursor
  unbegun {walk : Nat} (notThere : walks[walk]? = none) :
    Taking.asked walk past = 0 ∧ Taking.fetched walk past = []

namespace Placed

variable {walks : List (Cursor α)} {past : List (Taking α)}

theorem nil (table : PageTable α) (scope : ListScope) (first : ListPage α) :
    Placed table scope first [] [] where
  begun there := by cases there
  unbegun _ := ⟨rfl, rfl⟩

/-- A walk that begins leaves the others where they are. -/
theorem start (h : Placed table scope listing.first walks past) :
    Placed table scope listing.first (walks ++ [listing.start]) past where
  begun {walk cursor} there := by
    obtain ⟨hlength, -⟩ := List.getElem?_eq_some_iff.mp there
    rw [List.length_append, List.length_singleton] at hlength
    by_cases hwalk : walk < walks.length
    · rw [List.getElem?_append_left hwalk] at there
      exact h.begun there
    · obtain rfl : walk = walks.length := by omega
      obtain rfl := Option.some.inj (List.getElem?_concat_length.symm.trans there)
      obtain ⟨hasked, hfetched⟩ := h.unbegun (List.getElem?_eq_none (Nat.le_refl walks.length))
      rw [hasked, hfetched]
      exact ⟨[], rfl, stands_start table listing⟩
  unbegun {walk} hnone := by
    have hlength := List.getElem?_eq_none_iff.mp hnone
    rw [List.length_append] at hlength
    exact h.unbegun (List.getElem?_eq_none (by omega))

/-- A walk that is moved on leaves the others where they are. -/
theorem take (h : Placed table scope first walks past) (taking : Taking α)
    {cursor cursor' : Cursor α} {markers more : List Value}
    (there : walks[taking.take.walk]? = some cursor)
    (hfetched : Taking.fetched taking.take.walk past = markers.map fun marker => (marker, scope))
    (hfetches : taking.fetches = more.map fun marker => (marker, scope))
    (hstands : Stands table first (Taking.asked taking.take.walk past + taking.take.count)
      (markers ++ more) cursor') :
    Placed table scope first (walks.set taking.take.walk cursor') (past ++ [taking]) where
  begun {walk cursor} hthere := by
    by_cases hwalk : taking.take.walk = walk
    · subst hwalk
      rw [List.getElem?_set_self (List.getElem?_eq_some_iff.mp there).1] at hthere
      obtain rfl := Option.some.inj hthere
      refine ⟨markers ++ more, ?_, ?_⟩
      · rw [Taking.fetched_concat_self, hfetched, hfetches, List.map_append]
      · rw [Taking.asked_concat_self]
        exact hstands
    · rw [List.getElem?_set_ne hwalk] at hthere
      rw [Taking.asked_concat_ne past hwalk, Taking.fetched_concat_ne past hwalk]
      exact h.begun hthere
  unbegun {walk} hnone := by
    rw [List.getElem?_eq_none_iff, List.length_set, ← List.getElem?_eq_none_iff] at hnone
    have hwalk : taking.take.walk ≠ walk := by
      rintro rfl
      rw [hnone] at there
      cases there
    rw [Taking.asked_concat_ne past hwalk, Taking.fetched_concat_ne past hwalk]
    exact h.unbegun hnone

/-- What was fetched for a walk is what it takes to give all that was asked of it. -/
theorem settles (h : Placed table scope first walks past) (walk : Nat) :
    table.Settles first (Taking.asked walk past) fun markers _ _ =>
      Taking.fetched walk past = markers.map fun marker => (marker, scope) := by
  cases hthere : walks[walk]? with
  | none =>
    obtain ⟨hasked, hfetched⟩ := h.unbegun hthere
    rw [hasked, hfetched]
    exact (PageTable.Gives.met (table.reaches_nil first)).settles rfl
  | some cursor =>
    obtain ⟨markers, hfetched, hstands⟩ := h.begun hthere
    obtain ⟨given, stop, hgives⟩ := hstands.gives
    exact hgives.settles hfetched

end Placed

/-- Whether a record is one of walks that do not get into each other's way. -/
structure SideBySide (table : PageTable α) (scope : ListScope) (first : ListPage α)
    (log : List (Taking α)) : Prop where
  /-- A take goes on where the takes from the same walk before it have come to. -/
  answers {before after : List (Taking α)} {taking : Taking α}
    (split : log = before ++ taking :: after) :
    table.Settles first (Taking.asked taking.take.walk before + taking.take.count)
      fun _ given stop => taking.answer
        = PageTable.answer (Taking.asked taking.take.walk before) taking.take.count given stop
  /-- What has been fetched for a walk is at any time what it takes to give all that has been asked
  of it. -/
  fetches (walk : Nat) {before after : List (Taking α)} (split : log = before ++ after) :
    table.Settles first (Taking.asked walk before) fun markers _ _ =>
      Taking.fetched walk before = markers.map fun marker => (marker, scope)

namespace SideBySide

theorem nil (table : PageTable α) (scope : ListScope) (first : ListPage α) :
    SideBySide table scope first [] where
  answers split := by cases (List.append_eq_nil_iff.mp split.symm).2
  fetches walk {before after} split := by
    obtain ⟨rfl, -⟩ := List.append_eq_nil_iff.mp split.symm
    exact (Placed.nil table scope first).settles walk

theorem concat {past : List (Taking α)} {latest : Taking α}
    (h : SideBySide table scope first past)
    (hanswer : table.Settles first (Taking.asked latest.take.walk past + latest.take.count)
      fun _ given stop => latest.answer
        = PageTable.answer (Taking.asked latest.take.walk past) latest.take.count given stop)
    (hfetches : ∀ walk, table.Settles first (Taking.asked walk (past ++ [latest]))
      fun markers _ _ => Taking.fetched walk (past ++ [latest])
        = markers.map fun marker => (marker, scope)) :
    SideBySide table scope first (past ++ [latest]) where
  answers {before after taking} hsplit := by
    rcases place_of_concat hsplit with ⟨rfl, rfl, -⟩ | ⟨rest, hbefore, -⟩
    · exact hanswer
    · exact h.answers hbefore
  fetches walk {before after} hsplit := by
    rcases after.eq_nil_or_concat with rfl | ⟨after, last, rfl⟩
    · rw [List.append_nil] at hsplit
      rw [← hsplit]
      exact hfetches walk
    · rw [List.concat_eq_append, ← List.append_assoc] at hsplit
      exact h.fetches walk (List.append_inj' hsplit rfl).1

end SideBySide

/-- **Every step leaves the other walks alone**, and so do all of them, unless one of the walks is
asked for more than there is within reach. -/
theorem interleave_placed (hfetch : listing.FetchesFrom table scope) (limit : Nat)
    (steps : List WalkStep) {walks : List (Cursor α)} {past : List (Taking α)}
    (hplaced : Placed table scope listing.first walks past)
    (hside : SideBySide table scope listing.first past) (s : Session τ σ (Value × ListScope)) :
    (∃ log t, (listing.interleave limit steps walks).perform s = (.ok log, t) ∧
      log.map Taking.take = WalkStep.takes walks.length steps ∧
      t.calls = s.calls ++ log.flatMap Taking.fetches ∧
      SideBySide table scope listing.first (past ++ log)) ∨
    ∃ t walk, (listing.interleave limit steps walks).perform s = (.error .cutOff, t) ∧
      OutOfReach table listing.first limit
        (Taking.asked walk past + Take.asked walk (WalkStep.takes walks.length steps)) := by
  -- the record so far is part of what the steps are about: a take is answered by what it says
  induction steps generalizing walks past s with
  | nil =>
    rw [← List.append_nil past] at hside
    exact .inl ⟨[], s, rfl, rfl, (List.append_nil s.calls).symm, hside⟩
  | cons step steps ih =>
    match step with
    | .start =>
      have hlater := ih hplaced.start hside s
      rwa [List.length_append, List.length_singleton] at hlater
    | .take asked =>
      rw [interleave, WalkStep.takes]
      cases hthere : walks[asked.walk]? with
      | none =>
        rw [if_neg (Nat.not_lt.mpr (List.getElem?_eq_none_iff.mp hthere))]
        exact ih hplaced hside s
      | some cursor =>
        rw [if_pos (List.getElem?_eq_some_iff.mp hthere).1]
        obtain ⟨markers, hfetched, hstands⟩ := hplaced.begun hthere
        rcases takeOrEnd_stands hfetch hstands limit asked.count s with
          ⟨answer, cursor', more, given, stop, htake, hstands', hgives, hanswer⟩ |
            ⟨t, htake, hfar⟩
        · have hcalled := Act.perform_withCalls htake (s.calls_fetched scope more)
          have hplaced' := hplaced.take ⟨asked, answer, _⟩ hthere hfetched rfl hstands'
          have hside' := hside.concat (hgives.settles hanswer) hplaced'.settles
          dsimp only
          rw [Act.perform_bind_ok hcalled]
          rcases ih hplaced' hside' (s.fetched scope more) with
            ⟨log, t, hlater, htakes, hcalls, hlog⟩ | ⟨t, walk, hlater, hfar⟩
          · refine .inl ⟨⟨asked, answer, _⟩ :: log, t, Act.perform_bind_ok hlater, ?_, ?_, ?_⟩
            · rw [List.map_cons, htakes, List.length_set]
            · rw [hcalls, Session.calls_fetched, List.flatMap_cons, List.append_assoc]
            · rwa [List.append_assoc] at hlog
          · rw [List.length_set, Taking.asked_append, Nat.add_assoc] at hfar
            refine .inr ⟨t, walk, Act.perform_bind_error hlater, ?_⟩
            rwa [← List.singleton_append, Take.asked_append]
        · refine .inr ⟨t, asked.walk, ?_, hfar.mono ?_⟩
          · exact Act.perform_bind_error (Act.perform_withCalls_error htake)
          · rw [← List.singleton_append, Take.asked_append, Take.asked_self]
            omega

/-- **Walks side by side.**  Whatever is done with the walks along a listing of a table, every take
goes on where the takes from the same walk before it have come to, and nothing is fetched for a walk
but what it takes to give what was asked of it; or one of the walks is asked for more than there is
within reach. -/
theorem interleave_sideBySide (h : listing.IsOver table scope) (limit : Nat)
    (steps : List WalkStep) (s : Session τ σ (Value × ListScope)) :
    (∃ log t, (listing.interleave limit steps []).perform s = (.ok log, t) ∧
      log.map Taking.take = WalkStep.takes 0 steps ∧
      t.calls = s.calls ++ log.flatMap Taking.fetches ∧
      SideBySide table scope listing.first log) ∨
    ∃ t walk, (listing.interleave limit steps []).perform s = (.error .cutOff, t) ∧
      OutOfReach table listing.first limit (Take.asked walk (WalkStep.takes 0 steps)) := by
  have hnil := Placed.nil table scope listing.first
  rcases interleave_placed h.fetchesFrom limit steps hnil (.nil _ _ _) s with
    hdone | ⟨t, walk, hcut, hfar⟩
  · exact .inl hdone
  · rw [Taking.asked_nil, Nat.zero_add] at hfar
    exact .inr ⟨t, walk, hcut, hfar⟩

/-- Two walks, the second of which runs into the end of the table and is asked once more. -/
def brokenSteps : List WalkStep :=
  [.start, .start, .take ⟨1, 3⟩, .take ⟨0, 1⟩, .take ⟨1, 1⟩, .take ⟨1, 1⟩, .take ⟨0, 2⟩]

/-- A listing of the table with nothing behind its last marker. -/
def brokenListing : Paged Float Unit (Value × ListScope) Nat where
  first := { items := [1], nextMarker := some "a" }
  scope := some { project := "p" }
  fetch := some brokenTable.fetch

theorem interleave_sideBySide_brokenTable :
    brokenListing.IsOver brokenTable { project := "p" } ∧
      ∃ log t, (brokenListing.interleave 3 brokenSteps []).perform freshSession = (.ok log, t) ∧
        SideBySide brokenTable { project := "p" } brokenListing.first log ∧
        log.map Taking.answer
          = [.ok ⟨[1, 2, 3], false⟩, .ok ⟨[1], false⟩, .error (.raised .runtime "no such page"),
              .ok ⟨[], true⟩, .ok ⟨[2, 3], false⟩] := by
  have hadvance : advance brokenListing.first { project := "p" } brokenTable.fetch
      = .ok brokenListing := rfl
  have hover := (advance_isOver hadvance).2
  refine ⟨hover, ?_⟩
  rcases interleave_sideBySide hover 3 brokenSteps freshSession with
    ⟨log, t, hrun, -, -, hside⟩ | ⟨t, walk, hcut, -⟩
  · refine ⟨log, t, hrun, hside, ?_⟩
    cases hrun
    rfl
  · cases hcut

end Paged

end ComputeNodes

/-
What a memo remembers.

A memo is called and reset, and its computations come out as they will: the outcomes are a sequence
of which every computation takes the next one.  What comes of the steps is a history, and all that
is said here of calls is said by the history in front of them, not by what the memo holds.

One fact ties the two together: what a memo holds is the value that its history remembers
(`value_after`), which is that of the latest computation that succeeded, unless a reset came later
(`remembered_eq_some_iff`, `remembered_eq_none_iff`).  So a call looks at its history when it looks
at the memo.  How many computations there are is counted stretch by stretch: between two resets
there is nothing but failures, one success, and calls that repeat it (`Stretch`).
-/
import ComputeNodes.Memo
import Mathlib.Algebra.Ring.Nat

namespace ComputeNodes.Memo

variable {ε α : Type}

/-! ### Memos in use -/

/-- What is done to a memo. -/
inductive Step where
  | call
  | reset
  deriving DecidableEq, Repr

/-- What comes of a step. -/
inductive Entry (ε α : Type) where
  /-- A call, whether it ran the computation, and what it gave or raised. -/
  | call (ran : Bool) (outcome : Except ε α)
  | reset

namespace Entry

/-- The step that an entry comes from. -/
def step : Entry ε α → Step
  | .call .. => .call
  | .reset => .reset

def isReset : Entry ε α → Bool
  | .call .. => false
  | .reset => true

/-- Whether a computation ran. -/
def ran : Entry ε α → Bool
  | .call ran _ => ran
  | .reset => false

/-- Whether a computation ran and succeeded. -/
def hasComputed : Entry ε α → Bool
  | .call true (.ok _) => true
  | _ => false

/-- Whether a call gave a value. -/
def hasReturned : Entry ε α → Bool
  | .call _ (.ok _) => true
  | _ => false

/-- Whether a call raised an error. -/
def hasFailed : Entry ε α → Bool
  | .call _ (.error _) => true
  | _ => false

end Entry

/-- A memo, and how many computations have been run for it. -/
structure Bench (α : Type) where
  memo : Memo α := {}
  computed : Nat := 0

/-- The next computation, which comes out as the sequence says. -/
def compute (outcomes : Nat → Except ε α) : ExceptT ε (StateM (Bench α)) α := do
  let bench ← get
  set { bench with computed := bench.computed + 1 }
  ExceptT.mk (pure (outcomes bench.computed))

/-- A call of the memo. -/
def call (outcomes : Nat → Except ε α) : ExceptT ε (StateM (Bench α)) α :=
  force (do return (← get).memo) (fun memo => modify fun bench => { bench with memo })
    (compute outcomes)

/-- A step, what comes of it, and where it leaves the memo. -/
def act (outcomes : Nat → Except ε α) (bench : Bench α) : Step → Entry ε α × Bench α
  | .call =>
    let (outcome, later) := (call outcomes).run.run bench
    (.call (bench.computed != later.computed) outcome, later)
  | .reset => (.reset, { bench with memo := bench.memo.reset })

/-- What comes of steps, one after the other. -/
def history (outcomes : Nat → Except ε α) : List Step → Bench α → List (Entry ε α)
  | [], _ => []
  | step :: steps, bench =>
    (act outcomes bench step).1 :: history outcomes steps (act outcomes bench step).2

/-- Where steps leave a memo. -/
def after (outcomes : Nat → Except ε α) (steps : List Step) (bench : Bench α) : Bench α :=
  steps.foldl (fun bench step => (act outcomes bench step).2) bench

/-! ### One step -/

variable {outcomes : Nat → Except ε α} {bench : Bench α}

theorem act_reset : act outcomes bench .reset = (.reset, ⟨{}, bench.computed⟩) := rfl

theorem act_call_of_some {v : α} (h : bench.memo.value = some v) :
    act outcomes bench .call = (.call false (.ok v), bench) := by
  obtain ⟨⟨value⟩, computed⟩ := bench
  obtain rfl : value = some v := h
  have hrun : (call outcomes).run.run ⟨⟨some v⟩, computed⟩ = (.ok v, ⟨⟨some v⟩, computed⟩) := rfl
  simp [act, hrun]

/-- What a memo holds of the outcome of a computation. -/
def kept? : Except ε α → Option α
  | .ok v => some v
  | .error _ => none

theorem act_call_of_none (h : bench.memo.value = none) :
    act outcomes bench .call
      = (.call true (outcomes bench.computed),
          ⟨⟨kept? (outcomes bench.computed)⟩, bench.computed + 1⟩) := by
  obtain ⟨⟨value⟩, computed⟩ := bench
  obtain rfl : value = none := h
  have hrun : (call outcomes).run.run ⟨⟨none⟩, computed⟩
      = (outcomes computed, ⟨⟨kept? (outcomes computed)⟩, computed + 1⟩) := by
    -- of the sequence, only the outcome that comes next counts
    show (call fun _ => outcomes computed).run.run ⟨⟨none⟩, computed⟩ = _
    cases outcomes computed <;> rfl
  simp [act, hrun]

/-! ### What a history remembers -/

/-- Whether no computation has succeeded since the last reset. -/
def HasForgotten (history : List (Entry ε α)) : Prop :=
  ∀ earlier v later, history = earlier ++ .call true (.ok v) :: later → .reset ∈ later

/-- Whether a value is that of the latest computation that succeeded, with no reset since. -/
def Remembers (history : List (Entry ε α)) (v : α) : Prop :=
  ∃ earlier later, history = earlier ++ .call true (.ok v) :: later ∧
    ∀ e ∈ later, e.isReset = false ∧ e.hasComputed = false

/-- What is remembered after one more entry. -/
def remember : Option α → Entry ε α → Option α
  | _, .reset => none
  | _, .call true (.ok v) => some v
  | memory, _ => memory

theorem hasForgotten_cons {e : Entry ε α} {history : List (Entry ε α)} :
    HasForgotten (e :: history) ↔
      (∀ v, e = .call true (.ok v) → .reset ∈ history) ∧ HasForgotten history := by
  constructor
  · intro h
    refine ⟨fun v he => h [] v history (by rw [he]; rfl), fun earlier v later hat => ?_⟩
    exact h (e :: earlier) v later (by rw [hat]; rfl)
  · rintro ⟨hhead, htail⟩ earlier v later hat
    rcases List.cons_eq_append_iff.mp hat with ⟨-, hnow⟩ | ⟨rest, -, hrest⟩
    · obtain ⟨rfl, rfl⟩ := List.cons.inj hnow
      exact hhead v rfl
    · exact htail rest v later hrest

theorem remembers_cons {e : Entry ε α} {history : List (Entry ε α)} {v : α} :
    Remembers (e :: history) v ↔ Remembers history v ∨
      (e = .call true (.ok v) ∧ ∀ e ∈ history, e.isReset = false ∧ e.hasComputed = false) := by
  constructor
  · rintro ⟨earlier, later, hat, hlater⟩
    rcases List.cons_eq_append_iff.mp hat with ⟨-, hnow⟩ | ⟨rest, -, hrest⟩
    · obtain ⟨rfl, rfl⟩ := List.cons.inj hnow
      exact .inr ⟨rfl, hlater⟩
    · exact .inl ⟨rest, later, hrest, hlater⟩
  · rintro (⟨earlier, later, rfl, hlater⟩ | ⟨rfl, hlater⟩)
    · exact ⟨e :: earlier, later, rfl, hlater⟩
    · exact ⟨[], history, rfl, hlater⟩

/-- What is remembered behind a history is what the history remembers, or else what was remembered
in front of it and nothing has touched. -/
theorem remembered_eq_some_iff {history : List (Entry ε α)} {memory : Option α} {v : α} :
    history.foldl remember memory = some v ↔ Remembers history v ∨
      (memory = some v ∧ ∀ e ∈ history, e.isReset = false ∧ e.hasComputed = false) := by
  induction history generalizing memory with
  | nil => simp [Remembers]
  | cons e history ih =>
    rw [List.foldl_cons, ih, remembers_cons]
    match e with
    | .reset => simp [remember, Entry.isReset]
    | .call true (.ok w) => simp [remember, Entry.hasComputed]
    | .call true (.error error) => simp [remember, Entry.isReset, Entry.hasComputed]
    | .call false outcome => simp [remember, Entry.isReset, Entry.hasComputed]

/-- Nothing is remembered behind a history that has forgotten what there was. -/
theorem remembered_eq_none_iff {history : List (Entry ε α)} {memory : Option α} :
    history.foldl remember memory = none ↔
      (memory = none ∨ .reset ∈ history) ∧ HasForgotten history := by
  induction history generalizing memory with
  | nil => simp [HasForgotten]
  | cons e history ih =>
    rw [List.foldl_cons, ih, hasForgotten_cons]
    match e with
    | .reset => simp [remember]
    | .call true (.ok w) => simp +contextual [remember]
    | .call true (.error error) => simp [remember]
    | .call false outcome => simp [remember]

/-! ### Memos and their histories -/

theorem value_act (outcomes : Nat → Except ε α) (bench : Bench α) (step : Step) :
    (act outcomes bench step).2.memo.value
      = remember bench.memo.value (act outcomes bench step).1 := by
  cases step with
  | reset => rfl
  | call =>
    cases h : bench.memo.value with
    | some v => rw [act_call_of_some h, h]; rfl
    | none =>
      rw [act_call_of_none h]
      cases outcomes bench.computed <;> rfl

theorem computed_act (outcomes : Nat → Except ε α) (bench : Bench α) (step : Step) :
    (act outcomes bench step).2.computed
      = bench.computed + (act outcomes bench step).1.ran.toNat := by
  cases step with
  | reset => rfl
  | call =>
    cases h : bench.memo.value with
    | some v => rw [act_call_of_some h]; rfl
    | none => rw [act_call_of_none h]; rfl

/-- **A memo holds what its history remembers.** -/
theorem value_after (outcomes : Nat → Except ε α) (steps : List Step) (bench : Bench α) :
    (after outcomes steps bench).memo.value
      = (history outcomes steps bench).foldl remember bench.memo.value := by
  induction steps generalizing bench with
  | nil => rfl
  | cons step steps ih =>
    rw [history, List.foldl_cons, ← value_act]
    exact ih _

/-- The computations of a history are those that have been run. -/
theorem computed_after (outcomes : Nat → Except ε α) (steps : List Step) (bench : Bench α) :
    (after outcomes steps bench).computed
      = bench.computed + (history outcomes steps bench).countP Entry.ran := by
  induction steps generalizing bench with
  | nil => rfl
  | cons step steps ih =>
    have hrest := ih (act outcomes bench step).2
    rw [computed_act] at hrest
    rw [history, List.countP_cons]
    refine hrest.trans ?_
    cases (act outcomes bench step).1.ran with
    | false => simp
    | true =>
      simp
      omega

/-- An entry of a history is what comes of its step, where the steps before it leave the memo. -/
theorem history_split {steps : List Step} {before later : List (Entry ε α)} {e : Entry ε α}
    (h : history outcomes steps bench = before ++ e :: later) :
    ∃ front step back, history outcomes front bench = before ∧
      (act outcomes (after outcomes front bench) step).1 = e ∧
      history outcomes back (act outcomes (after outcomes front bench) step).2 = later := by
  induction before generalizing steps bench with
  | nil =>
    cases steps with
    | nil => cases h
    | cons step back =>
      obtain ⟨he, hlater⟩ := List.cons.inj h
      exact ⟨[], step, back, rfl, he, hlater⟩
  | cons first before ih =>
    cases steps with
    | nil => cases h
    | cons step steps =>
      obtain ⟨hfirst, hrest⟩ := List.cons.inj h
      obtain ⟨front, next, back, hbefore, hact, hlater⟩ := ih hrest
      exact ⟨step :: front, next, back, by rw [history, hfirst, hbefore], hact, hlater⟩

/-! ### Between two resets -/

/-- Whether entries are what comes between two resets where a value is remembered, or none: calls
that give that value, or failures up to one success. -/
inductive Stretch : Option α → List (Entry ε α) → Prop
  | ended (memory : Option α) : Stretch memory []
  | recalled {v : α} {entries : List (Entry ε α)} (rest : Stretch (some v) entries) :
    Stretch (some v) (.call false (.ok v) :: entries)
  | failed {error : ε} {entries : List (Entry ε α)} (rest : Stretch none entries) :
    Stretch none (.call true (.error error) :: entries)
  | succeeded {v : α} {entries : List (Entry ε α)} (rest : Stretch (some v) entries) :
    Stretch none (.call true (.ok v) :: entries)

namespace Stretch

variable {entries : List (Entry ε α)}

theorem eq_recalled {v : α} (h : Stretch (some v) entries) :
    ∀ e ∈ entries, e = .call false (.ok v) := by
  generalize hmemory : some v = memory at h
  induction h with
  | ended => simp
  | recalled rest ih =>
    cases hmemory
    simpa using ih rfl
  | failed => cases hmemory
  | succeeded => cases hmemory

/-- Where a value is remembered, nothing is computed and nothing fails. -/
theorem countP_of_some {v : α} (h : Stretch (some v) entries) :
    entries.countP Entry.ran = 0 ∧ entries.countP Entry.hasFailed = 0 ∧
      entries.countP Entry.hasComputed = 0 := by
  simp only [List.countP_eq_zero]
  refine ⟨fun e he => ?_, fun e he => ?_, fun e he => ?_⟩ <;>
    rw [h.eq_recalled e he] <;> exact Bool.false_ne_true

/-- At most one computation succeeds, and the others are the calls that fail. -/
theorem countP_of_none (h : Stretch none entries) :
    entries.countP Entry.hasComputed ≤ 1 ∧
      entries.countP Entry.ran
        = entries.countP Entry.hasFailed + (entries.any Entry.hasReturned).toNat := by
  generalize hmemory : (none : Option α) = memory at h
  induction h with
  | ended => simp
  | recalled => cases hmemory
  | failed rest ih =>
    obtain ⟨honce, hcount⟩ := ih hmemory
    simp [List.countP_cons, Entry.hasComputed, Entry.ran, Entry.hasFailed, Entry.hasReturned, honce,
      hcount]
    omega
  | succeeded rest =>
    obtain ⟨hran, hfailed, hcomputed⟩ := rest.countP_of_some
    simp [List.countP_cons, Entry.hasComputed, Entry.ran, Entry.hasFailed, Entry.hasReturned, hran,
      hfailed, hcomputed]

end Stretch

/-- The stretches between the resets of a history. -/
def stretches (history : List (Entry ε α)) : List (List (Entry ε α)) :=
  history.splitOnP Entry.isReset

/-- Every stretch begins with nothing remembered, but for the first one. -/
theorem stretches_history (outcomes : Nat → Except ε α) (steps : List Step) (bench : Bench α) :
    ∃ first others, stretches (history outcomes steps bench) = first :: others ∧
      Stretch bench.memo.value first ∧ ∀ stretch ∈ others, Stretch none stretch := by
  induction steps generalizing bench with
  | nil => exact ⟨[], [], List.splitOnP_nil, .ended _, by simp⟩
  | cons step steps ih =>
    obtain ⟨first, others, hsplit, hfirst, hothers⟩ := ih (act outcomes bench step).2
    rw [value_act] at hfirst
    have hcons : stretches (history outcomes (step :: steps) bench) =
        if (act outcomes bench step).1.isReset then [] :: first :: others
        else ((act outcomes bench step).1 :: first) :: others := by
      rw [stretches, history, List.splitOnP_cons_eq_if_modifyHead, ← stretches, hsplit]
      rfl
    rw [hcons]
    cases step with
    | reset =>
      refine ⟨[], first :: others, rfl, .ended _, fun stretch hstretch => ?_⟩
      rcases List.mem_cons.mp hstretch with rfl | hother
      · exact hfirst
      · exact hothers stretch hother
    | call =>
      refine ⟨(act outcomes bench .call).1 :: first, others, rfl, ?_, hothers⟩
      cases hvalue : bench.memo.value with
      | some v =>
        rw [act_call_of_some hvalue, hvalue] at hfirst
        rw [act_call_of_some hvalue]
        exact .recalled hfirst
      | none =>
        rw [act_call_of_none hvalue, hvalue] at hfirst
        rw [act_call_of_none hvalue]
        cases houtcome : outcomes bench.computed with
        | ok v =>
          rw [houtcome] at hfirst
          exact .succeeded hfirst
        | error error =>
          rw [houtcome] at hfirst
          exact .failed hfirst

/-- What is true of no reset is counted stretch by stretch. -/
theorem countP_stretches {p : Entry ε α → Bool} (hp : p .reset = false)
    (history : List (Entry ε α)) :
    history.countP p = ((stretches history).map (List.countP p)).sum := by
  induction history with
  | nil => simp [stretches]
  | cons e history ih =>
    rw [stretches, List.splitOnP_cons_eq_if_modifyHead, ← stretches, List.countP_cons, ih]
    cases e with
    | reset => simp [Entry.isReset, hp]
    | call ran outcome =>
      obtain ⟨first, others, hsplit⟩ : ∃ first others, stretches history = first :: others :=
        List.exists_cons_of_ne_nil (List.splitOnP_ne_nil _ _)
      simp [Entry.isReset, hsplit, List.countP_cons]
      omega

/-- From a memo that holds a value, everything up to the next reset is a call that gives it. -/
theorem takeWhile_history {v : α} (h : bench.memo.value = some v) (steps : List Step) :
    ∀ e ∈ (history outcomes steps bench).takeWhile (!·.isReset), e = .call false (.ok v) := by
  induction steps with
  | nil => simp [history]
  | cons step steps ih =>
    cases step with
    | reset => simp [history, act_reset, Entry.isReset]
    | call =>
      rw [history, act_call_of_some h]
      simpa [Entry.isReset] using ih

/-- Where every stretch begins with nothing remembered, the computations are the calls that fail and
one for every stretch with a call that does not. -/
theorem sum_ran {l : List (List (Entry ε α))} (h : ∀ entries ∈ l, Stretch none entries) :
    (l.map (List.countP Entry.ran)).sum
      = (l.map (List.countP Entry.hasFailed)).sum + l.countP (·.any Entry.hasReturned) := by
  induction l with
  | nil => rfl
  | cons entries l ih =>
    have hrest := ih fun other hother => h other (List.mem_cons_of_mem _ hother)
    have hfirst := (h entries List.mem_cons_self).countP_of_none.2
    rw [List.map_cons, List.sum_cons, hfirst, hrest, List.map_cons, List.sum_cons, List.countP_cons]
    cases entries.any Entry.hasReturned <;> simp <;> omega

/-! ### Whole histories -/

/-- Whether entries are what has to come of steps, with computations that come out as the sequence
says, of which so many have been run. -/
structure IsFaithful (outcomes : Nat → Except ε α) (steps : List Step)
    (entries : List (Entry ε α)) (computed : Nat) : Prop where
  /-- There is one entry for every step. -/
  complete : entries.map Entry.step = steps
  /-- A call runs the computation exactly if none has succeeded since the last reset. -/
  computes {before later : List (Entry ε α)} {ran : Bool} {outcome : Except ε α}
    (place : entries = before ++ .call ran outcome :: later) : ran = true ↔ HasForgotten before
  /-- One that runs it gives its value or raises its error. -/
  gives {before later : List (Entry ε α)} {outcome : Except ε α}
    (place : entries = before ++ .call true outcome :: later) :
    outcome = outcomes (before.countP Entry.ran)
  /-- One that does not gives the value of the latest success. -/
  recalls {before later : List (Entry ε α)} {outcome : Except ε α}
    (place : entries = before ++ .call false outcome :: later) :
    ∃ v, outcome = .ok v ∧ Remembers before v
  /-- From a success on, every call gives its value, up to the next reset. -/
  stays {before later : List (Entry ε α)} {v : α}
    (place : entries = before ++ .call true (.ok v) :: later) :
    ∀ e ∈ later.takeWhile (!·.isReset), e = .call false (.ok v)
  /-- Between two resets at most one computation succeeds. -/
  once : ∀ stretch ∈ stretches entries, stretch.countP Entry.hasComputed ≤ 1
  /-- There are as many computations as calls that fail and stretches with one that does not. -/
  counts : computed
    = entries.countP Entry.hasFailed + (stretches entries).countP (·.any Entry.hasReturned)

theorem map_step_history (steps : List Step) (bench : Bench α) :
    (history outcomes steps bench).map Entry.step = steps := by
  induction steps generalizing bench with
  | nil => rfl
  | cons step steps ih =>
    rw [history, List.map_cons, ih]
    cases step <;> rfl

theorem history_call {steps : List Step} {before later : List (Entry ε α)} {ran : Bool}
    {outcome : Except ε α}
    (h : history outcomes steps {} = before ++ .call ran outcome :: later) :
    (ran = true ∧ outcome = outcomes (before.countP Entry.ran) ∧ HasForgotten before) ∨
      (ran = false ∧ ∃ v, outcome = .ok v ∧ Remembers before v) := by
  obtain ⟨front, step, back, rfl, hact, -⟩ := history_split h
  have hvalue := value_after outcomes front {}
  have hcomputed := computed_after outcomes front {}
  cases step with
  | reset => cases hact
  | call =>
    cases hmemo : (after outcomes front {}).memo.value with
    | none =>
      rw [act_call_of_none hmemo] at hact
      cases hact
      refine .inl ⟨rfl, by rw [hcomputed]; simp, ?_⟩
      exact (remembered_eq_none_iff.mp (hvalue.symm.trans hmemo)).2
    | some v =>
      rw [act_call_of_some hmemo] at hact
      cases hact
      refine .inr ⟨rfl, v, rfl, ?_⟩
      rcases remembered_eq_some_iff.mp (hvalue.symm.trans hmemo) with hremembers | ⟨hnone, -⟩
      · exact hremembers
      · cases hnone

theorem Remembers.not_hasForgotten {entries : List (Entry ε α)} {v : α} (h : Remembers entries v) :
    ¬ HasForgotten entries := by
  obtain ⟨earlier, later, hat, hlater⟩ := h
  intro hforgotten
  exact absurd (hlater _ (hforgotten earlier v later hat)).1 Bool.noConfusion

/-- **What comes of every use of a memo**, said by its history: when it computes, what it gives, and
how often it computes. -/
theorem history_isFaithful (outcomes : Nat → Except ε α) (steps : List Step) :
    IsFaithful outcomes steps (history outcomes steps {}) (after outcomes steps {}).computed where
  complete := map_step_history steps {}
  computes {before later ran outcome} hplace := by
    rcases history_call hplace with ⟨rfl, -, hforgotten⟩ | ⟨rfl, v, -, hremembers⟩
    · simp [hforgotten]
    · simp [hremembers.not_hasForgotten]
  gives hplace := by
    rcases history_call hplace with ⟨-, houtcome, -⟩ | ⟨hran, -⟩
    · exact houtcome
    · cases hran
  recalls hplace := by
    rcases history_call hplace with ⟨hran, -⟩ | ⟨-, hrecalled⟩
    · cases hran
    · exact hrecalled
  stays {before later v} hplace := by
    obtain ⟨front, step, back, rfl, hact, rfl⟩ := history_split hplace
    refine takeWhile_history ?_ back
    rw [value_act, hact]
    rfl
  once stretch hstretch := by
    obtain ⟨first, others, hsplit, hfirst, hothers⟩ := stretches_history outcomes steps {}
    rw [hsplit] at hstretch
    rcases List.mem_cons.mp hstretch with rfl | hother
    · exact hfirst.countP_of_none.1
    · exact (hothers stretch hother).countP_of_none.1
  counts := by
    obtain ⟨first, others, hsplit, hfirst, hothers⟩ := stretches_history outcomes steps {}
    have hall : ∀ entries ∈ stretches (history outcomes steps {}), Stretch none entries := by
      rw [hsplit]
      exact List.forall_mem_cons.mpr ⟨hfirst, hothers⟩
    calc (after outcomes steps {}).computed
        = (history outcomes steps {}).countP Entry.ran := by
          rw [computed_after]
          exact Nat.zero_add _
      _ = ((stretches (history outcomes steps {})).map (List.countP Entry.ran)).sum :=
          countP_stretches rfl _
      _ = _ := by rw [sum_ran hall, ← countP_stretches rfl]

/-- A call after a failure computes again, and null is a value like any other. -/
example :
    history (fun n => if n = 1 then .ok none else .error n) [.call, .call, .call, .reset, .call] {}
      = ([.call true (.error 0), .call true (.ok none), .call false (.ok none), .reset,
          .call true (.error 2)] : List (Entry Nat (Option Nat))) := rfl

end ComputeNodes.Memo

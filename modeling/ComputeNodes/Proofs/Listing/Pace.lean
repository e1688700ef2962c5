/-
The pace of a walk item by item.

Markers may lead round in circles, so a walk is followed for as long as one likes, and not to its
end: it is `Behind` the items that were taken from it, with what had to be followed for them.  From
there on a draw finds the next item, or stops as the chain stops, or does not get that far
(`draw_drawing`); so does a take, item by item (`take_moved`); and a walk that has failed is over
for good (`takeOrEnd_stands`).
-/
import ComputeNodes.Proofs.Listing.Demand
import ComputeNodes.Proofs.Listing.Walk

namespace ComputeNodes

namespace Paged

variable {τ σ α : Type} {listing : Paged τ σ (Value × ListScope) α} {table : PageTable α}
  {scope : ListScope} {first last : ListPage α} {markers : List Value}
  {earlier : List (ListPage α)} {taken rest passed : List α} {cursor : Cursor α} {limit : Nat}

/-- Whether a walk is behind some items, having followed some markers, and goes on from there. -/
inductive Behind (table : PageTable α) (first : ListPage α) :
    List Value → List α → Cursor α → Prop
  | page {markers : List Value} {earlier : List (ListPage α)} {last : ListPage α}
    {taken rest : List α} (leads : table.Leads first markers earlier last)
    (split : last.items = taken ++ rest) (needed : markers ≠ [] → taken ≠ []) :
    Behind table first markers (ListPage.itemsOf earlier ++ taken)
      (.reading rest last.nextMarker)

theorem Behind.reaches (h : Behind table first markers passed cursor) :
    table.Reaches first markers passed := by
  cases h with
  | page leads split needed => exact .upTo leads split needed

/-- Whether so many items are more than there are within so many pages. -/
def OutOfReach (table : PageTable α) (first : ListPage α) (limit asked : Nat) : Prop :=
  ∃ markers earlier last, table.Leads first markers earlier last ∧ limit ≤ markers.length ∧
    last.nextMarker.isSome = true ∧ (ListPage.itemsOf (earlier ++ [last])).length < asked

theorem OutOfReach.mono {asked more : Nat} (h : OutOfReach table first limit asked)
    (hle : asked ≤ more) : OutOfReach table first limit more := by
  obtain ⟨markers, earlier, last, hleads, hfar, hgoesOn, hshort⟩ := h
  exact ⟨markers, earlier, last, hleads, hfar, hgoesOn, Nat.lt_of_lt_of_le hshort hle⟩

/-! ### A draw -/

/-- What drawing an item comes to, behind some markers and some items. -/
inductive Drawing (table : PageTable α) (scope : ListScope) (first : ListPage α) (limit : Nat)
    (markers : List Value) (passed : List α) (s : Session τ σ (Value × ListScope)) :
    Except Halt (Option α × Cursor α) → Session τ σ (Value × ListScope) → Prop
  | found {more : List Value} {item : α} {cursor : Cursor α}
    (behind : Behind table first (markers ++ more) (passed ++ [item]) cursor) :
    Drawing table scope first limit markers passed s (.ok (some item, cursor))
      (s.fetched scope more)
  | stopped {more : List Value} {r : Except Error Unit}
    (finishes : table.Finishes first (markers ++ more) passed r) :
    Drawing table scope first limit markers passed s
      ((r.map fun _ => (none, .ended)).mapError .failed) (s.fetched scope more)
  | cutOff {more : List Value} {earlier : List (ListPage α)} {last : ListPage α}
    (leads : table.Leads first (markers ++ more) earlier last) (far : limit ≤ more.length)
    (goesOn : last.nextMarker.isSome = true)
    (passed_eq : ListPage.itemsOf (earlier ++ [last]) = passed) :
    Drawing table scope first limit markers passed s (.error .cutOff) (s.fetched scope more)

/-- A draw stays on its page if an item is left there, or no page comes behind it. -/
theorem draw_here (hleads : table.Leads first markers earlier last)
    (hsplit : last.items = taken ++ rest) (hhere : rest = [] → last.nextMarker = none)
    (limit : Nat) (s : Session τ σ (Value × ListScope)) :
    ∃ r, (listing.draw limit (.reading rest last.nextMarker)).perform s = (r, s) ∧
      Drawing table scope first limit markers (ListPage.itemsOf earlier ++ taken) s r s := by
  cases rest with
  | cons item rest =>
    have hbehind : Behind table first markers (ListPage.itemsOf earlier ++ (taken ++ [item]))
        (.reading rest last.nextMarker) :=
      .page hleads (by simp [hsplit]) fun _ => by simp
    rw [← List.append_assoc, ← List.append_nil markers] at hbehind
    exact ⟨_, by rw [draw, Act.perform_pure], .found hbehind⟩
  | nil =>
    have hnext := hhere rfl
    have hstops : table.Stops last.nextMarker [] (.ok ()) := hnext ▸ .ended
    have hfinishes := PageTable.Finishes.all hleads hstops
    rw [ListPage.itemsOf_concat, hsplit.trans (List.append_nil taken)] at hfinishes
    have hstopped : Drawing table scope first limit markers (ListPage.itemsOf earlier ++ taken) s
        (.ok (none, .ended)) (s.fetched scope []) := .stopped (r := .ok ()) hfinishes
    exact ⟨_, by rw [hnext, draw, Act.perform_pure], hstopped⟩

/-- What is drawn behind the next page is drawn behind this one. -/
theorem Drawing.behind_next {marker : Value} {s t : Session τ σ _}
    {r : Except Halt (Option α × Cursor α)}
    (h : Drawing table scope first limit (markers ++ [marker]) passed (s.fetched scope [marker])
      r t) : Drawing table scope first (limit + 1) markers passed s r t := by
  cases h with
  | @found more item cursor behind =>
    rw [← Session.fetched_append]
    rw [List.append_assoc] at behind
    exact .found behind
  | @stopped more r finishes =>
    rw [← Session.fetched_append]
    rw [List.append_assoc] at finishes
    exact .stopped finishes
  | @cutOff more earlier last leads far goesOn passed_eq =>
    rw [← Session.fetched_append]
    rw [List.append_assoc] at leads
    exact .cutOff leads (Nat.succ_le_succ far) goesOn passed_eq

/-- **A draw** goes on to the next page that holds an item, or as far as it may. -/
theorem draw_drawing (hfetch : listing.FetchesFrom table scope)
    (hleads : table.Leads listing.first markers earlier last) (hsplit : last.items = taken ++ rest)
    (limit : Nat) (s : Session τ σ (Value × ListScope)) :
    ∃ r t, (listing.draw limit (.reading rest last.nextMarker)).perform s = (r, t) ∧
      Drawing table scope listing.first limit markers (ListPage.itemsOf earlier ++ taken) s
        r t := by
  -- pages are fetched only while they are empty, and every one of them is behind the walk at once
  induction limit generalizing markers earlier last taken rest s with
  | zero =>
    by_cases hhere : rest = [] → last.nextMarker = none
    · obtain ⟨r, hdraw, hdrawing⟩ := draw_here hleads hsplit hhere 0 s
      exact ⟨r, s, hdraw, hdrawing⟩
    · obtain ⟨rfl, hnext⟩ := Classical.not_imp.mp hhere
      obtain ⟨marker, hmarker⟩ := Option.ne_none_iff_exists'.mp hnext
      have hsome : last.nextMarker.isSome = true := Option.isSome_iff_ne_none.mpr hnext
      have hpassed := ListPage.itemsOf_concat earlier last
      rw [hsplit, List.append_nil] at hpassed
      rw [← List.append_nil markers] at hleads
      refine ⟨_, _, ?_, .cutOff hleads (Nat.zero_le _) hsome hpassed⟩
      rw [hmarker, draw, Act.perform_throw, Session.fetched_nil]
  | succ limit ih =>
    by_cases hhere : rest = [] → last.nextMarker = none
    · obtain ⟨r, hdraw, hdrawing⟩ := draw_here hleads hsplit hhere (limit + 1) s
      exact ⟨r, s, hdraw, hdrawing⟩
    · obtain ⟨rfl, hnext⟩ := Classical.not_imp.mp hhere
      obtain ⟨marker, hmarker⟩ := Option.ne_none_iff_exists'.mp hnext
      have hpassed := ListPage.itemsOf_concat earlier last
      rw [hsplit, List.append_nil] at hpassed
      have hnow := hfetch (hleads.isSome hmarker) [marker]
      cases hfound : table marker with
      | error error =>
        have hstops : table.Stops last.nextMarker [marker] (.error error) :=
          hmarker ▸ .raised hfound
        have hfinishes := PageTable.Finishes.all hleads hstops
        rw [hpassed] at hfinishes
        refine ⟨_, _, ?_, .stopped hfinishes⟩
        rw [hmarker, draw]
        exact Act.perform_bind_error (hnow.raised hfound s)
      | ok following =>
        have hunread : following.items = [] ++ following.items := rfl
        obtain ⟨r, t, hdraw, hdrawing⟩ :=
          ih (hleads.snoc hmarker hfound) hunread (s.fetched scope [marker])
        rw [hpassed, List.append_nil] at hdrawing
        refine ⟨r, t, ?_, hdrawing.behind_next⟩
        rw [hmarker, draw]
        exact (Act.perform_bind_ok (hnow.found hfound s)).trans hdraw

/-! ### A take -/

/-- What taking so many items comes to, behind some markers and some items. -/
inductive Moved (table : PageTable α) (scope : ListScope) (first : ListPage α) (limit : Nat)
    (markers : List Value) (passed : List α) (count : Nat) (s : Session τ σ (Value × ListScope)) :
    Except Halt (Drawn α × Cursor α) → Session τ σ (Value × ListScope) → Prop
  | met {more : List Value} {items : List α} {cursor : Cursor α}
    (behind : Behind table first (markers ++ more) (passed ++ items) cursor)
    (enough : items.length = count) :
    Moved table scope first limit markers passed count s (.ok (⟨items, false⟩, cursor))
      (s.fetched scope more)
  | ended {more : List Value} {items : List α}
    (finishes : table.Finishes first (markers ++ more) (passed ++ items) (.ok ()))
    (short : items.length < count) :
    Moved table scope first limit markers passed count s (.ok (⟨items, true⟩, .ended))
      (s.fetched scope more)
  | raised {more : List Value} {items : List α} {error : Error}
    (finishes : table.Finishes first (markers ++ more) (passed ++ items) (.error error))
    (short : items.length < count) :
    Moved table scope first limit markers passed count s (.error (.failed error))
      (s.fetched scope more)
  | cutOff {t : Session τ σ (Value × ListScope)}
    (far : OutOfReach table first limit (passed.length + count)) :
    Moved table scope first limit markers passed count s (.error .cutOff) t

/-- An item in front of those that are taken. -/
def onto (item : α) : Drawn α × Cursor α → Drawn α × Cursor α
  | (drawn, cursor) => (⟨item :: drawn.items, drawn.atEnd⟩, cursor)

/-- What is taken behind an item is taken together with it. -/
theorem Moved.behind_item {more : List Value} {item : α} {count : Nat}
    {s t : Session τ σ (Value × ListScope)} {r : Except Halt (Drawn α × Cursor α)}
    (h : Moved table scope first limit (markers ++ more) (passed ++ [item]) count
      (s.fetched scope more) r t) :
    Moved table scope first limit markers passed (count + 1) s (r.map (onto item)) t := by
  have hitem (items : List α) : passed ++ [item] ++ items = passed ++ item :: items := by simp
  cases h with
  | met behind enough =>
    rw [← Session.fetched_append]
    rw [List.append_assoc, hitem] at behind
    exact .met behind (congrArg Nat.succ enough)
  | ended finishes short =>
    rw [← Session.fetched_append]
    rw [List.append_assoc, hitem] at finishes
    exact .ended finishes (Nat.succ_lt_succ short)
  | raised finishes short =>
    rw [← Session.fetched_append]
    rw [List.append_assoc, hitem] at finishes
    exact .raised finishes (Nat.succ_lt_succ short)
  | cutOff far =>
    refine .cutOff ?_
    have hlength : (passed ++ [item]).length + count = passed.length + (count + 1) := by
      rw [List.length_append, List.length_singleton]
      omega
    rwa [← hlength]

/-- **A take** draws one item after the other, until the walk stops under it. -/
theorem take_moved (hfetch : listing.FetchesFrom table scope)
    (hbehind : Behind table listing.first markers passed cursor) (limit count : Nat)
    (s : Session τ σ (Value × ListScope)) :
    ∃ r t, (listing.take limit count cursor).perform s = (r, t) ∧
      Moved table scope listing.first limit markers passed count s r t := by
  induction count generalizing markers passed cursor s with
  | zero =>
    rw [← List.append_nil markers, ← List.append_nil passed] at hbehind
    exact ⟨_, _, rfl, .met hbehind rfl⟩
  | succ count ih =>
    obtain ⟨hleads, hsplit, -⟩ := hbehind
    obtain ⟨r, t, hdraw, hdrawing⟩ := draw_drawing hfetch hleads hsplit limit s
    rw [take]
    cases hdrawing with
    | @found more item cursor behind =>
      obtain ⟨r, t, htake, hmoved⟩ := ih behind (s.fetched scope more)
      refine ⟨_, t, ?_, hmoved.behind_item⟩
      rw [Act.perform_bind_ok hdraw]
      cases r with
      | ok drawn => exact Act.perform_bind_ok htake
      | error halt => exact Act.perform_bind_error htake
    | @stopped more r finishes =>
      have hnothing (l : List α) : l = l ++ [] := (List.append_nil l).symm
      rw [hnothing (ListPage.itemsOf _ ++ _)] at finishes
      cases r with
      | ok _ => exact ⟨_, _, Act.perform_bind_ok hdraw, .ended finishes (Nat.succ_pos count)⟩
      | error error =>
        exact ⟨_, _, Act.perform_bind_error hdraw, .raised finishes (Nat.succ_pos count)⟩
    | @cutOff more earlier' last' leads far goesOn passed_eq =>
      refine ⟨_, _, Act.perform_bind_error hdraw, .cutOff ⟨_, _, _, leads, ?_, goesOn, ?_⟩⟩
      · rw [List.length_append]
        omega
      · rw [passed_eq]
        omega

/-! ### A take from a walk that may be over -/

/-- Where a walk stands that was asked for so many items and has followed some markers. -/
inductive Stands (table : PageTable α) (first : ListPage α) (asked : Nat) (markers : List Value) :
    Cursor α → Prop
  | reading {passed : List α} {cursor : Cursor α}
    (behind : Behind table first markers passed cursor) (asked_eq : passed.length = asked) :
    Stands table first asked markers cursor
  | atEnd {given : List α} {r : Except Error Unit} (finishes : table.Finishes first markers given r)
    (short : given.length < asked) : Stands table first asked markers .ended

theorem stands_start (table : PageTable α) (listing : Paged τ σ (Value × ListScope) α) :
    Stands table listing.first 0 [] listing.start := by
  have hunread : listing.first.items = [] ++ listing.first.items := rfl
  exact .reading (.page (.here listing.first) hunread (absurd rfl)) rfl

theorem Stands.gives {asked : Nat} (h : Stands table first asked markers cursor) :
    ∃ given stop, table.Gives first asked markers given stop := by
  cases h with
  | reading behind asked_eq =>
    subst asked_eq
    exact ⟨_, none, .met behind.reaches⟩
  | atEnd finishes short => exact ⟨_, _, .stopped finishes short⟩

/-- How a take comes out, when a walk that fails is over. -/
def orEnd : Except Halt (Drawn α × Cursor α) → Except Halt (Except Error (Drawn α) × Cursor α)
  | .ok (drawn, cursor) => .ok (.ok drawn, cursor)
  | .error (.failed error) => .ok (.error error, .ended)
  | .error .cutOff => .error .cutOff

theorem takeOrEnd_perform {count : Nat} {s t : Session τ σ (Value × ListScope)}
    {r : Except Halt (Drawn α × Cursor α)}
    (h : (listing.take limit count cursor).perform s = (r, t)) :
    (listing.takeOrEnd limit count cursor).perform s = (orEnd r, t) := by
  rw [takeOrEnd, Act.perform_tryCatch]
  match r with
  | .ok (drawn, cursor) => rw [Act.perform_bind_ok h]; rfl
  | .error (.failed error) => rw [Act.perform_bind_error h]; rfl
  | .error .cutOff => rw [Act.perform_bind_error h]; rfl

theorem takeOrEnd_ended (listing : Paged τ σ (Value × ListScope) α) (limit count : Nat)
    (s : Session τ σ (Value × ListScope)) :
    (listing.takeOrEnd limit count .ended).perform s
      = (.ok (.ok ⟨[], decide (0 < count)⟩, .ended), s) := by
  cases count with
  | zero => exact takeOrEnd_perform rfl
  | succ count =>
    have hdraw : (listing.draw limit .ended).perform s = (.ok (none, .ended), s) := by
      rw [draw, Act.perform_pure]
    have htake : (listing.take limit (count + 1) .ended).perform s
        = (.ok (⟨[], true⟩, .ended), s) := by
      rw [take]
      exact Act.perform_bind_ok hdraw
    rw [takeOrEnd_perform htake, orEnd, decide_eq_true (Nat.succ_pos count)]

/-- **A take moves a walk on by what it asks for**, and is answered by what that comes to. -/
theorem takeOrEnd_stands (hfetch : listing.FetchesFrom table scope) {asked : Nat}
    (h : Stands table listing.first asked markers cursor) (limit count : Nat)
    (s : Session τ σ (Value × ListScope)) :
    (∃ answer cursor' more given stop,
      (listing.takeOrEnd limit count cursor).perform s
          = (.ok (answer, cursor'), s.fetched scope more) ∧
        Stands table listing.first (asked + count) (markers ++ more) cursor' ∧
        table.Gives listing.first (asked + count) (markers ++ more) given stop ∧
        answer = PageTable.answer asked count given stop) ∨
      ∃ t, (listing.takeOrEnd limit count cursor).perform s = (.error .cutOff, t) ∧
        OutOfReach table listing.first limit (asked + count) := by
  cases h with
  | @reading passed cursor behind asked_eq =>
    subst asked_eq
    obtain ⟨r, t, htake, hmoved⟩ := take_moved hfetch behind limit count s
    have hperform := takeOrEnd_perform htake
    have hnow (items : List α) : ¬ (passed ++ items).length < passed.length := by
      rw [List.length_append]
      omega
    cases hmoved with
    | @met more items cursor behind enough =>
      have hlength : (passed ++ items).length = passed.length + count := by simp [enough]
      have hgives := PageTable.Gives.met behind.reaches
      rw [hlength] at hgives
      refine .inl ⟨_, _, more, _, _, hperform, .reading behind hlength, hgives, ?_⟩
      rw [PageTable.answer, List.drop_left]
    | @ended more items finishes short =>
      have hshort : (passed ++ items).length < passed.length + count := by simp [short]
      refine .inl ⟨_, _, more, _, _, hperform, .atEnd finishes hshort, .stopped finishes hshort, ?_⟩
      rw [PageTable.answer, if_neg (hnow items), List.drop_left]
      rfl
    | @raised more items error finishes short =>
      have hshort : (passed ++ items).length < passed.length + count := by simp [short]
      refine .inl ⟨_, _, more, _, _, hperform, .atEnd finishes hshort, .stopped finishes hshort, ?_⟩
      rw [PageTable.answer, if_neg (hnow items)]
      rfl
    | cutOff far => exact .inr ⟨t, hperform, far⟩
  | @atEnd given r finishes short =>
    refine .inl ⟨_, _, [], given, some r, takeOrEnd_ended listing limit count s, ?_, ?_, ?_⟩
    · rw [List.append_nil]
      exact .atEnd finishes (by omega)
    · rw [List.append_nil]
      exact .stopped finishes (by omega)
    · rw [PageTable.answer, if_pos short]

end Paged

end ComputeNodes

/-
What a chain of pages gives on demand.

Somebody who asks for so many items of a chain, one after the other, comes past them page by page
and follows a marker only where the items so far are all behind him.  So the markers he has followed
lead to the page that holds the last item he was given (`Reaches`); when he asks for more than there
is, the chain stops under him, and he has followed whatever it takes to see that (`Finishes`).
`Gives` puts the two together: it says what asking for so many items in all comes to.

There is only one chain from a page on, so there is only one thing that asking for so many items can
come to (`Gives.unique`), and with it only one answer to asking for some more.
-/
import ComputeNodes.Proofs.Listing.Chain

namespace ComputeNodes

theorem ListPage.itemsOf_concat {α : Type} (earlier : List (ListPage α)) (last : ListPage α) :
    itemsOf (earlier ++ [last]) = itemsOf earlier ++ last.items := by
  simp [itemsOf]

namespace PageTable

variable {α : Type} {table : PageTable α} {first page last last' : ListPage α}
  {markers markers' more more' : List Value} {earlier earlier' between : List (ListPage α)}
  {items given given' all : List α} {stop stop' : Option (Except Error Unit)}
  {r r' : Except Error Unit} {next : Option Value} {asked count : Nat}

/-! ### One chain from every page -/

theorem Leads.snoc {marker : Value} {following : ListPage α}
    (h : table.Leads page markers earlier last) (continued : last.nextMarker = some marker)
    (found : table marker = .ok following) :
    table.Leads page (markers ++ [marker]) (earlier ++ [last]) following := by
  induction h with
  | here page => exact .next continued found (.here following)
  | next onMarker onFound _ ih => exact .next onMarker onFound (ih continued)

theorem Leads.isSome {marker : Value} (h : table.Leads page markers earlier last)
    (continued : last.nextMarker = some marker) : page.nextMarker.isSome = true := by
  cases h with
  | here => rw [continued]; rfl
  | next continued found onward => rw [continued]; rfl

/-- Of two chains from one page, one leads on from where the other one has come to. -/
theorem Leads.onward_or (h : table.Leads page markers earlier last)
    (h' : table.Leads page markers' earlier' last') :
    (∃ more between, table.Leads last more between last' ∧ markers' = markers ++ more ∧
        earlier' = earlier ++ between) ∨
      ∃ more between, table.Leads last' more between last ∧ markers = markers' ++ more ∧
        earlier = earlier' ++ between := by
  induction h generalizing markers' earlier' with
  | here page => exact .inl ⟨markers', earlier', h', rfl, rfl⟩
  | @next page following last marker markers earlier continued found onward ih =>
    cases h' with
    | here page => exact .inr ⟨_, _, .next continued found onward, rfl, rfl⟩
    | next continued' found' onward' =>
      obtain rfl : marker = _ := Option.some.inj (continued.symm.trans continued')
      obtain rfl : following = _ := Except.ok.inj (found.symm.trans found')
      rcases ih onward' with ⟨more, between, hon, rfl, rfl⟩ | ⟨more, between, hon, rfl, rfl⟩
      · exact .inl ⟨more, between, hon, rfl, rfl⟩
      · exact .inr ⟨more, between, hon, rfl, rfl⟩

/-- A chain that stops behind a page does not go on from there. -/
theorem Leads.eq_of_stops (h : table.Leads page markers earlier last)
    (hstops : table.Stops page.nextMarker more r) : markers = [] ∧ earlier = [] ∧ last = page := by
  cases h with
  | here => exact ⟨rfl, rfl, rfl⟩
  | next continued found onward =>
    rw [continued] at hstops
    cases hstops with
    | raised raises => rw [found] at raises; cases raises

theorem Stops.unique (h : table.Stops next more r) (h' : table.Stops next more' r') :
    more = more' ∧ r = r' := by
  cases h with
  | ended => cases h'; exact ⟨rfl, rfl⟩
  | raised raises =>
    cases h' with
    | raised raises' =>
      obtain rfl := Except.error.inj (raises.symm.trans raises')
      exact ⟨rfl, rfl⟩

/-! ### Coming past items -/

/-- What is followed to come past some items.  The markers lead to the page that holds the last one
of them; the first page is there already. -/
inductive Reaches (table : PageTable α) (first : ListPage α) : List Value → List α → Prop
  | upTo {markers : List Value} {earlier : List (ListPage α)} {last : ListPage α}
    {taken rest : List α} (leads : table.Leads first markers earlier last)
    (split : last.items = taken ++ rest) (needed : markers ≠ [] → taken ≠ []) :
    Reaches table first markers (ListPage.itemsOf earlier ++ taken)

/-- What is followed to come to the end of a chain that stops, all its items, and what comes of
it. -/
inductive Finishes (table : PageTable α) (first : ListPage α) :
    List Value → List α → Except Error Unit → Prop
  | all {markers more : List Value} {earlier : List (ListPage α)} {last : ListPage α}
    {r : Except Error Unit} (leads : table.Leads first markers earlier last)
    (stops : table.Stops last.nextMarker more r) :
    Finishes table first (markers ++ more) (ListPage.itemsOf (earlier ++ [last])) r

theorem reaches_nil (table : PageTable α) (first : ListPage α) : table.Reaches first [] [] :=
  .upTo (.here first) (List.nil_append _).symm (absurd rfl)

/-- There is one way to come past so many items. -/
theorem Reaches.unique (h : table.Reaches first markers given)
    (h' : table.Reaches first markers' given') (hlength : given.length = given'.length) :
    markers = markers' ∧ given = given' := by
  -- whoever has followed one marker more has come past an item that the other one has not
  have key : ∀ {markers more : List Value} {earlier between : List (ListPage α)}
      {last last' : ListPage α} {taken rest taken' rest' : List α},
      table.Leads last more between last' → last.items = taken ++ rest →
      last'.items = taken' ++ rest' → (markers ++ more ≠ [] → taken' ≠ []) →
      (ListPage.itemsOf earlier ++ taken).length
        = (ListPage.itemsOf (earlier ++ between) ++ taken').length →
      more = [] ∧ between = [] ∧ taken = taken' := by
    intro markers more earlier between last last' taken rest taken' rest' hon hsplit hsplit'
      hneeded hlength
    cases hon with
    | here =>
      simp only [List.append_nil, List.length_append, Nat.add_left_cancel_iff] at hlength
      rw [hsplit] at hsplit'
      exact ⟨rfl, rfl, (List.append_inj hsplit' hlength).1⟩
    | next continued found onward =>
      have hitem : 0 < taken'.length := List.length_pos_iff.mpr (hneeded (by simp))
      simp only [ListPage.itemsOf, List.length_append, List.flatMap_append, List.flatMap_cons,
        hsplit] at hlength
      omega
  obtain ⟨leads, split, needed⟩ := h
  obtain ⟨leads', split', needed'⟩ := h'
  rcases leads.onward_or leads' with ⟨more, between, hon, rfl, rfl⟩ | ⟨more, between, hon, rfl, rfl⟩
  · obtain ⟨rfl, rfl, rfl⟩ := key hon split split' needed' hlength
    simp
  · obtain ⟨rfl, rfl, rfl⟩ := key hon split' split needed hlength.symm
    simp

theorem Finishes.unique (h : table.Finishes first markers given r)
    (h' : table.Finishes first markers' given' r') :
    markers = markers' ∧ given = given' ∧ r = r' := by
  obtain ⟨leads, stops⟩ := h
  obtain ⟨leads', stops'⟩ := h'
  rcases leads.onward_or leads' with ⟨more, between, hon, rfl, rfl⟩ | ⟨more, between, hon, rfl, rfl⟩
  · obtain ⟨rfl, rfl, rfl⟩ := hon.eq_of_stops stops
    obtain ⟨rfl, rfl⟩ := stops.unique stops'
    simp
  · obtain ⟨rfl, rfl, rfl⟩ := hon.eq_of_stops stops'
    obtain ⟨rfl, rfl⟩ := stops.unique stops'
    simp

/-- Nobody comes past more items than there are. -/
theorem Reaches.length_le (h : table.Reaches first markers given)
    (h' : table.Finishes first markers' all r) : given.length ≤ all.length := by
  obtain ⟨leads, split, needed⟩ := h
  obtain ⟨leads', stops'⟩ := h'
  rcases leads.onward_or leads' with ⟨more, between, hon, rfl, rfl⟩ | ⟨more, between, hon, rfl, rfl⟩
  · cases hon <;>
      simp only [ListPage.itemsOf, List.length_append, List.flatMap_append, List.flatMap_cons,
        List.flatMap_nil, List.append_nil, split] <;> omega
  · obtain ⟨rfl, rfl, rfl⟩ := hon.eq_of_stops stops'
    simp only [ListPage.itemsOf, List.length_append, List.flatMap_append, List.flatMap_cons,
      List.flatMap_nil, List.append_nil, split]
    omega

/-! ### Asking for items -/

/-- **What asking for so many items in all comes to**: the markers that are followed, the items that
are given, and what the chain stops with, if it stops before. -/
inductive Gives (table : PageTable α) (first : ListPage α) :
    Nat → List Value → List α → Option (Except Error Unit) → Prop
  | met {markers : List Value} {given : List α} (reaches : table.Reaches first markers given) :
    Gives table first given.length markers given none
  | stopped {markers : List Value} {given : List α} {r : Except Error Unit} {asked : Nat}
    (finishes : table.Finishes first markers given r) (short : given.length < asked) :
    Gives table first asked markers given (some r)

theorem Gives.unique (h : table.Gives first asked markers given stop)
    (h' : table.Gives first asked markers' given' stop') :
    markers = markers' ∧ given = given' ∧ stop = stop' := by
  cases h with
  | met reaches =>
    generalize hlength : given.length = asked at h'
    cases h' with
    | met reaches' =>
      obtain ⟨rfl, rfl⟩ := reaches.unique reaches' hlength
      exact ⟨rfl, rfl, rfl⟩
    | stopped finishes' short' => exact absurd (reaches.length_le finishes') (by omega)
  | stopped finishes short =>
    cases h' with
    | met reaches' => exact absurd (reaches'.length_le finishes) (by omega)
    | stopped finishes' short' =>
      obtain ⟨rfl, rfl, rfl⟩ := finishes.unique finishes'
      exact ⟨rfl, rfl, rfl⟩

/-- Asking for so many items comes to something, and whatever it comes to is as `P` says. -/
def Settles (table : PageTable α) (first : ListPage α) (asked : Nat)
    (P : List Value → List α → Option (Except Error Unit) → Prop) : Prop :=
  (∃ markers given stop, table.Gives first asked markers given stop) ∧
    ∀ markers given stop, table.Gives first asked markers given stop → P markers given stop

theorem Gives.settles {P : List Value → List α → Option (Except Error Unit) → Prop}
    (h : table.Gives first asked markers given stop) (hP : P markers given stop) :
    table.Settles first asked P := by
  refine ⟨⟨_, _, _, h⟩, fun markers' given' stop' h' => ?_⟩
  obtain ⟨rfl, rfl, rfl⟩ := h.unique h'
  exact hP

/-- How asking for some more items is answered, behind so many that were asked for before, by what
asking for all of them comes to.  The items go on where those before them ended.  Whoever comes to
the end is told so, or is told what cut the chain short; whoever came there before is given
nothing. -/
def answer (asked count : Nat) (given : List α) :
    Option (Except Error Unit) → Except Error (Drawn α)
  | none => .ok ⟨given.drop asked, false⟩
  | some r =>
    if given.length < asked then .ok ⟨[], decide (0 < count)⟩
    else r.map fun _ => ⟨given.drop asked, true⟩

end PageTable

end ComputeNodes

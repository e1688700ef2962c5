/-
Walks along chains of pages.

A walk page by page gets as far as the chain leads and comes out as the chain stops (`fold_chain`).
A walk item by item stands in front of what is left of its page, which is a page again: what is in
front of it is `Remains`, an item that is drawn is the first one of that (`draw_item`), and when
there is none left the walk comes out as the chain stops (`draw_none`).  So both kinds of walks come
by the same items and fetch the same pages, and `advance_walks` says which.

Sessions are left as `Session.fetched` has them, with every marker of the chain asked for once, in
order, and in the scope of the listing (`Session.calls_fetched`).
-/
import ComputeNodes.Proofs.Listing.Chain
import ComputeNodes.Proofs.Listing.Paged

namespace ComputeNodes

/-- A walk in front of a page. -/
def ListPage.cursor {α : Type} (page : ListPage α) : Cursor α := .reading page.items page.nextMarker

namespace Paged

variable {τ σ α β : Type} {listing : Paged τ σ (Value × ListScope) α} {table : PageTable α}
  {scope : ListScope} {page last : ListPage α} {next : Option Value} {markers more : List Value}
  {earlier : List (ListPage α)} {items : List α} {r : Except Error Unit} {limit : Nat}
  {s : Session τ σ (Value × ListScope)}

/-- Whether a listing fetches the pages behind these markers out of a table, in a scope. -/
def Fetches (listing : Paged τ σ (Value × ListScope) α) (table : PageTable α) (scope : ListScope)
    (markers : List Value) : Prop :=
  ∀ marker ∈ markers, ∀ s, (listing.next marker).perform s
    = ((table marker).mapError .failed, s.fetched scope [marker])

namespace Fetches

theorem tail {marker : Value} (h : listing.Fetches table scope (marker :: markers)) :
    listing.Fetches table scope markers :=
  fun other hother => h other (List.mem_cons_of_mem marker hother)

theorem left (h : listing.Fetches table scope (markers ++ more)) :
    listing.Fetches table scope markers :=
  fun other hother => h other (List.mem_append_left more hother)

theorem right (h : listing.Fetches table scope (markers ++ more)) :
    listing.Fetches table scope more :=
  fun other hother => h other (List.mem_append_right markers hother)

theorem found {marker : Value} {following : ListPage α}
    (h : listing.Fetches table scope (marker :: markers)) (hfound : table marker = .ok following)
    (s : Session τ σ (Value × ListScope)) :
    (listing.next marker).perform s = (.ok following, s.fetched scope [marker]) := by
  rw [h marker List.mem_cons_self s, hfound]
  rfl

theorem raised {marker : Value} {error : Error}
    (h : listing.Fetches table scope (marker :: markers)) (hraises : table marker = .error error)
    (s : Session τ σ (Value × ListScope)) :
    (listing.next marker).perform s = (.error (.failed error), s.fetched scope [marker]) := by
  rw [h marker List.mem_cons_self s, hraises]
  rfl

end Fetches

/-! ### Page by page -/

section

variable (f : β → ListPage α → β) (before : β)

/-- A walk gets as far as the chain leads. -/
theorem foldFrom_leads (h : table.Leads page markers earlier last)
    (hfetch : listing.Fetches table scope markers) (limit : Nat)
    (s : Session τ σ (Value × ListScope)) :
    (listing.foldFrom (fun sofar page => return f sofar page) (markers.length + limit) page
        before).perform s
      = (listing.foldFrom (fun sofar page => return f sofar page) limit last
          (earlier.foldl f before)).perform (s.fetched scope markers) := by
  induction h generalizing before s with
  | here page => simp
  | @next page following last marker markers earlier continued found onward ih =>
    rw [show (marker :: markers).length + limit = markers.length + limit + 1 by
      rw [List.length_cons]; omega]
    rw [foldFrom, Act.perform_bind_ok (Act.perform_pure _ s), continued]
    exact (Act.perform_bind_ok (hfetch.found found s)).trans (ih (f before page) hfetch.tail _)

/-- A walk comes out as the chain stops. -/
theorem foldFrom_stops (h : table.Stops page.nextMarker more r)
    (hfetch : listing.Fetches table scope more) (hlimit : more.length ≤ limit)
    (s : Session τ σ (Value × ListScope)) :
    (listing.foldFrom (fun sofar page => return f sofar page) limit page before).perform s
      = ((r.map fun _ => f before page).mapError .failed, s.fetched scope more) := by
  generalize hnext : page.nextMarker = next at h
  rw [foldFrom.eq_def, Act.perform_bind_ok (Act.perform_pure _ s), hnext]
  cases h with
  | ended => rfl
  | raised raises =>
    obtain ⟨limit, rfl⟩ := Nat.exists_eq_succ_of_ne_zero (Nat.ne_zero_of_lt hlimit)
    exact Act.perform_bind_error (hfetch.raised raises s)

/-- **A walk page by page** comes by the pages of the chain. -/
theorem fold_chain (hleads : table.Leads listing.first markers earlier last)
    (hstops : table.Stops last.nextMarker more r)
    (hfetch : listing.Fetches table scope (markers ++ more))
    (hlimit : (markers ++ more).length ≤ limit) (s : Session τ σ (Value × ListScope)) :
    (listing.fold limit before fun sofar page => return f sofar page).perform s
      = ((r.map fun _ => (earlier ++ [last]).foldl f before).mapError .failed,
          s.fetched scope (markers ++ more)) := by
  rw [List.length_append] at hlimit
  obtain ⟨rest, rfl⟩ := Nat.exists_eq_add_of_le hlimit
  rw [fold, Nat.add_assoc, foldFrom_leads f before hleads hfetch.left,
    foldFrom_stops f _ hstops hfetch.right (Nat.le_add_right _ _), Session.fetched_append,
    List.foldl_append]
  rfl

theorem fold_cutOff (hleads : table.Leads listing.first markers earlier last)
    (hmore : last.nextMarker.isSome = true) (hfetch : listing.Fetches table scope markers)
    (s : Session τ σ (Value × ListScope)) :
    (listing.fold markers.length before fun sofar page => return f sofar page).perform s
      = (.error .cutOff, s.fetched scope markers) := by
  have hwalk := foldFrom_leads f before hleads hfetch 0 s
  obtain ⟨marker, hmarker⟩ := Option.isSome_iff_exists.mp hmore
  rw [fold, ← Nat.add_zero markers.length, hwalk, foldFrom.eq_def,
    Act.perform_bind_ok (Act.perform_pure _ _), hmarker]
  rfl

end

/-! ### Item by item -/

/-- **An item that is drawn is the first one of what remains.** -/
theorem draw_item {item : α} {all : List α} (h : table.Remains page markers all next)
    (hall : all = item :: items) (hfetch : listing.Fetches table scope markers)
    (hlimit : markers.length ≤ limit) (s : Session τ σ (Value × ListScope)) :
    ∃ front rest here, markers = front ++ rest ∧ table.Remains here rest items next ∧
      (listing.draw limit page.cursor).perform s
        = (.ok (some item, here.cursor), s.fetched scope front) := by
  induction h generalizing limit s with
  | here page =>
    refine ⟨[], [], ⟨items, page.nextMarker⟩, rfl, .here _, ?_⟩
    rw [ListPage.cursor, hall, draw]
    rfl
  | @next page following marker markers after next continued found onward ih =>
    cases hpage : page.items with
    | nil =>
      rw [hpage, List.nil_append] at hall
      obtain ⟨limit, rfl⟩ := Nat.exists_eq_succ_of_ne_zero (Nat.ne_zero_of_lt hlimit)
      obtain ⟨front, rest, here, rfl, hrest, hdraw⟩ :=
        ih hall hfetch.tail (Nat.le_of_succ_le_succ hlimit) (s.fetched scope [marker])
      refine ⟨marker :: front, rest, here, rfl, hrest, ?_⟩
      rw [ListPage.cursor, hpage, continued, draw, Act.perform_bind_ok (hfetch.found found s)]
      exact hdraw
    | cons first others =>
      rw [hpage] at hall
      obtain ⟨rfl, rfl⟩ := List.cons.inj hall
      refine ⟨[], marker :: markers, ⟨others, some marker⟩, rfl, .next rfl found onward, ?_⟩
      rw [ListPage.cursor, hpage, continued, draw]
      rfl

/-- **A walk in front of which nothing remains** comes out as the chain stops. -/
theorem draw_none (h : table.Remains page markers items next) (hitems : items = [])
    (hstops : table.Stops next more r) (hfetch : listing.Fetches table scope (markers ++ more))
    (hlimit : (markers ++ more).length ≤ limit) (s : Session τ σ (Value × ListScope)) :
    (listing.draw limit page.cursor).perform s
      = ((r.map fun _ => (none, .ended)).mapError .failed, s.fetched scope (markers ++ more)) := by
  induction h generalizing limit s with
  | here page =>
    rw [ListPage.cursor, hitems]
    generalize page.nextMarker = next at hstops
    cases hstops with
    | ended => rw [draw]; rfl
    | raised raises =>
      obtain ⟨limit, rfl⟩ := Nat.exists_eq_succ_of_ne_zero (Nat.ne_zero_of_lt hlimit)
      rw [draw]
      exact Act.perform_bind_error (hfetch.raised raises s)
  | @next page following marker markers after next continued found onward ih =>
    obtain ⟨hpage, hafter⟩ := List.append_eq_nil_iff.mp hitems
    obtain ⟨limit, rfl⟩ := Nat.exists_eq_succ_of_ne_zero (Nat.ne_zero_of_lt hlimit)
    rw [ListPage.cursor, hpage, continued, draw, Act.perform_bind_ok (hfetch.found found s)]
    exact ih hafter hstops hfetch.tail (Nat.le_of_succ_le_succ hlimit) _

theorem take_items (h : table.Remains page markers items next)
    (hfetch : listing.Fetches table scope markers) (hlimit : markers.length ≤ limit) {count : Nat}
    (hcount : count ≤ items.length) (s : Session τ σ (Value × ListScope)) :
    ∃ front rest here, markers = front ++ rest ∧
      table.Remains here rest (items.drop count) next ∧
      (listing.take limit count page.cursor).perform s
        = (.ok (⟨items.take count, false⟩, here.cursor), s.fetched scope front) := by
  induction count generalizing page markers items s with
  | zero => exact ⟨[], markers, page, rfl, h, rfl⟩
  | succ count ih =>
    obtain ⟨item, items, rfl⟩ := List.exists_cons_of_length_pos (Nat.zero_lt_of_lt hcount)
    obtain ⟨front, rest, here, rfl, hrest, hdraw⟩ := draw_item h rfl hfetch hlimit s
    rw [List.length_append] at hlimit
    obtain ⟨front', rest', here', rfl, hrest', htake⟩ :=
      ih hrest hfetch.right (by omega) (Nat.le_of_succ_le_succ hcount) (s.fetched scope front)
    refine ⟨front ++ front', rest', here', by simp, hrest', ?_⟩
    rw [take, Act.perform_bind_ok hdraw]
    refine (Act.perform_bind_ok htake).trans ?_
    rw [Session.fetched_append]
    rfl

theorem take_unmarked (listing : Paged τ σ (Value × ListScope) α) (limit count : Nat)
    (items : List α) (s : Session τ σ (Value × ListScope)) :
    ((listing.take limit count (.reading items none)).perform s).2 = s := by
  induction count generalizing items with
  | zero => rfl
  | succ count ih =>
    cases items with
    | nil => rw [take, draw]; rfl
    | cons item items =>
      have hrest := ih items
      rcases htake : (listing.take limit count (.reading items none)).perform s with ⟨r, t⟩
      rw [htake] at hrest
      obtain rfl : t = s := hrest
      rw [take, draw, Act.perform_bind_ok (Act.perform_pure _ t)]
      cases r with
      | ok drawn => exact congrArg Prod.snd (Act.perform_bind_ok htake)
      | error halt => exact congrArg Prod.snd (Act.perform_bind_error htake)

/-! ### Listings of tables -/

/-- Whether a listing fetches whatever it has to out of a table, in a scope. -/
def FetchesFrom (listing : Paged τ σ (Value × ListScope) α) (table : PageTable α)
    (scope : ListScope) : Prop :=
  listing.first.nextMarker.isSome = true → ∀ markers, listing.Fetches table scope markers

/-- Whether walks along a listing follow the chain of its first page in a table, fetching in a
scope. -/
structure Follows (listing : Paged τ σ (Value × ListScope) α) (table : PageTable α)
    (scope : ListScope) : Prop where
  /-- A walk ends if the chain comes to a page without a marker. -/
  ends_iff (s : Session τ σ (Value × ListScope)) :
    (∃ limit items t, (listing.concat limit).perform s = (.ok items, t)) ↔
      ∃ markers earlier last, table.Leads listing.first markers earlier last ∧
        last.nextMarker = none
  /-- Along a chain that stops, it gives all items of the pages, or raises what the chain stops
  with.  Every marker is fetched, once and in order. -/
  concat {markers more : List Value} {earlier : List (ListPage α)} {last : ListPage α}
    {r : Except Error Unit} (leads : table.Leads listing.first markers earlier last)
    (stops : table.Stops last.nextMarker more r) (limit : Nat)
    (bound : (markers ++ more).length ≤ limit) (s : Session τ σ (Value × ListScope)) :
    (listing.concat limit).perform s
      = ((r.map fun _ => ListPage.itemsOf (earlier ++ [last])).mapError .failed,
          s.fetched scope (markers ++ more))
  /-- Along a chain that goes on, as many markers are fetched as may be. -/
  cutOff {markers : List Value} {earlier : List (ListPage α)} {last : ListPage α}
    (leads : table.Leads listing.first markers earlier last)
    (goesOn : last.nextMarker.isSome = true) (s : Session τ σ (Value × ListScope)) :
    (listing.concat markers.length).perform s = (.error .cutOff, s.fetched scope markers)
  /-- One by one, the items of the pages are taken, wherever the chain leads after that. -/
  taken {markers : List Value} {earlier : List (ListPage α)} {last : ListPage α}
    (leads : table.Leads listing.first markers earlier last) (limit : Nat)
    (bound : markers.length ≤ limit) (count : Nat)
    (enough : count ≤ (ListPage.itemsOf (earlier ++ [last])).length)
    (s : Session τ σ (Value × ListScope)) :
    ∃ front cursor, front <+: markers ∧
      (listing.take limit count listing.start).perform s
        = (.ok (⟨(ListPage.itemsOf (earlier ++ [last])).take count, false⟩, cursor),
            s.fetched scope front)
  /-- When all items of a chain that stops are taken, the walk ends or raises what it stops with. -/
  stopped {markers more : List Value} {earlier : List (ListPage α)} {last : ListPage α}
    {r : Except Error Unit} (leads : table.Leads listing.first markers earlier last)
    (stops : table.Stops last.nextMarker more r) (limit : Nat)
    (bound : (markers ++ more).length ≤ limit) (s : Session τ σ (Value × ListScope)) :
    ∃ cursor t,
      (listing.take limit (ListPage.itemsOf (earlier ++ [last])).length listing.start).perform s
        = (.ok (⟨ListPage.itemsOf (earlier ++ [last]), false⟩, cursor), t) ∧
      (listing.draw limit cursor).perform t
        = ((r.map fun _ => (none, .ended)).mapError .failed, s.fetched scope (markers ++ more))

/-- Whether a listing is one of the pages of a table, in a scope.  One without a page behind its
first one may hold anything. -/
def IsOver (listing : Paged τ σ (Value × ListScope) α) (table : PageTable α)
    (scope : ListScope) : Prop :=
  listing.first.nextMarker.isSome = true →
    listing.scope = some scope ∧ listing.fetch = some table.fetch

/-- A listing of a table fetches its pages out of the table. -/
theorem IsOver.fetchesFrom (h : listing.IsOver table scope) : listing.FetchesFrom table scope := by
  intro hmarker markers marker _ s
  obtain ⟨hscope, hfetch⟩ := h hmarker
  rw [next, hscope, hfetch]
  refine (Act.perform_bind_ok (Act.perform_log _ _ _ s)).trans ?_
  refine (Act.perform_bind_ok (Act.perform_note _ _)).trans ?_
  exact Act.perform_ofExcept _ _

namespace FetchesFrom

theorem leads (h : listing.FetchesFrom table scope)
    (hleads : table.Leads listing.first markers earlier last) :
    listing.Fetches table scope markers := by
  cases hfirst : listing.first.nextMarker with
  | none =>
    -- a listing of one page cannot fetch, and does not have to
    obtain ⟨rfl, -, -⟩ := hleads.eq_nil hfirst
    exact nofun
  | some marker => exact h (by rw [hfirst]; rfl) markers

theorem chain (h : listing.FetchesFrom table scope)
    (hleads : table.Leads listing.first markers earlier last)
    (hstops : table.Stops last.nextMarker more r) :
    listing.Fetches table scope (markers ++ more) := by
  cases hfirst : listing.first.nextMarker with
  | none =>
    obtain ⟨rfl, -, rfl⟩ := hleads.eq_nil hfirst
    rw [hfirst] at hstops
    cases hstops
    exact nofun
  | some marker => exact h (by rw [hfirst]; rfl) (markers ++ more)

theorem concat_chain (h : listing.FetchesFrom table scope)
    (hleads : table.Leads listing.first markers earlier last)
    (hstops : table.Stops last.nextMarker more r) (limit : Nat)
    (hlimit : (markers ++ more).length ≤ limit) (s : Session τ σ (Value × ListScope)) :
    (listing.concat limit).perform s
      = ((r.map fun _ => ListPage.itemsOf (earlier ++ [last])).mapError .failed,
          s.fetched scope (markers ++ more)) := by
  rw [concat, fold_chain _ _ hleads hstops (h.chain hleads hstops) hlimit,
    List.foldl_append_eq_append, List.nil_append, ← List.flatMap_def]

theorem concat_cutOff (h : listing.FetchesFrom table scope)
    (hleads : table.Leads listing.first markers earlier last)
    (hmore : last.nextMarker.isSome = true) (s : Session τ σ (Value × ListScope)) :
    (listing.concat markers.length).perform s = (.error .cutOff, s.fetched scope markers) :=
  fold_cutOff _ _ hleads hmore (h.leads hleads) s

theorem concat_ends_iff (h : listing.FetchesFrom table scope)
    (s : Session τ σ (Value × ListScope)) :
    (∃ limit items t, (listing.concat limit).perform s = (.ok items, t)) ↔
      ∃ markers earlier last, table.Leads listing.first markers earlier last ∧
        last.nextMarker = none := by
  constructor
  · rintro ⟨limit, items, t, hended⟩
    obtain ⟨markers, earlier, last, hleads, ⟨more, r, hstops, hlimit⟩ | ⟨rfl, hmore⟩⟩ :=
      table.exists_leads listing.first limit
    · rw [h.concat_chain hleads hstops limit hlimit s] at hended
      generalize hnext : last.nextMarker = next at hstops
      cases hstops with
      | ended => exact ⟨markers, earlier, last, hleads, hnext⟩
      | raised raises => cases congrArg Prod.fst hended
    · rw [h.concat_cutOff hleads hmore s] at hended
      cases congrArg Prod.fst hended
  · rintro ⟨markers, earlier, last, hleads, hlast⟩
    have hstops : table.Stops last.nextMarker [] (.ok ()) := hlast ▸ .ended
    exact ⟨_, _, _, h.concat_chain hleads hstops _ (Nat.le_refl _) s⟩

theorem take_chain (h : listing.FetchesFrom table scope)
    (hleads : table.Leads listing.first markers earlier last) (limit : Nat)
    (hlimit : markers.length ≤ limit) (count : Nat)
    (hcount : count ≤ (ListPage.itemsOf (earlier ++ [last])).length)
    (s : Session τ σ (Value × ListScope)) :
    ∃ front cursor, front <+: markers ∧
      (listing.take limit count listing.start).perform s
        = (.ok (⟨(ListPage.itemsOf (earlier ++ [last])).take count, false⟩, cursor),
            s.fetched scope front) := by
  obtain ⟨front, rest, here, rfl, -, htake⟩ :=
    take_items hleads.remains (h.leads hleads) hlimit hcount s
  exact ⟨front, here.cursor, List.prefix_append front rest, htake⟩

theorem take_then_stops (h : listing.FetchesFrom table scope)
    (hleads : table.Leads listing.first markers earlier last)
    (hstops : table.Stops last.nextMarker more r) (limit : Nat)
    (hlimit : (markers ++ more).length ≤ limit) (s : Session τ σ (Value × ListScope)) :
    ∃ cursor t,
      (listing.take limit (ListPage.itemsOf (earlier ++ [last])).length listing.start).perform s
        = (.ok (⟨ListPage.itemsOf (earlier ++ [last]), false⟩, cursor), t) ∧
      (listing.draw limit cursor).perform t
        = ((r.map fun _ => (none, .ended)).mapError .failed,
            s.fetched scope (markers ++ more)) := by
  have hchain := h.chain hleads hstops
  have hmarkers : markers.length ≤ limit :=
    Nat.le_trans (List.length_append ▸ Nat.le_add_right _ _) hlimit
  obtain ⟨front, rest, here, rfl, hremains, htake⟩ :=
    take_items hleads.remains hchain.left hmarkers (Nat.le_refl _) s
  rw [List.take_length] at htake
  refine ⟨here.cursor, s.fetched scope front, htake, ?_⟩
  -- the markers of empty pages at the end are still to be followed
  rw [List.append_assoc] at hchain hlimit ⊢
  rw [List.length_append] at hlimit
  rw [draw_none hremains List.drop_length hstops hchain.right (by omega),
    ← Session.fetched_append]

/-- **Walks follow the chain** of a listing that fetches its pages. -/
theorem follows (h : listing.FetchesFrom table scope) : listing.Follows table scope where
  ends_iff := h.concat_ends_iff
  concat := h.concat_chain
  cutOff := h.concat_cutOff
  taken := h.take_chain
  stopped := h.take_then_stops

end FetchesFrom

variable {first : ListPage α}

/-- Only a listing with more pages than one needs a project. -/
theorem advance_eq_error (hmarker : first.nextMarker.isSome = true)
    (hproject : scope.project.isNothing = true) :
    (advance first scope table.fetch : Except Error (Paged τ σ (Value × ListScope) α))
      = .error (.paging .noProject) := by
  obtain ⟨marker, hmarker⟩ := Option.isSome_iff_exists.mp hmarker
  rw [advance, hmarker]
  simp [hproject]

theorem advance_isOver (h : advance first scope table.fetch = .ok listing) :
    listing.first = first ∧ listing.IsOver table scope := by
  obtain ⟨hfirst, hmore⟩ := of_advance h
  exact ⟨hfirst, fun hmarker => hmore (hfirst ▸ hmarker)⟩

/-- A listing can be made of every page that needs no project or is in one. -/
theorem advance_fetches (table : PageTable α)
    (h : first.nextMarker = none ∨ scope.project.isNothing = false) :
    ∃ listing : Paged τ σ (Value × ListScope) α, advance first scope table.fetch = .ok listing ∧
      listing.first = first ∧ listing.FetchesFrom table scope := by
  obtain ⟨listing, hadvance⟩ := exists_advance (τ := τ) (σ := σ) h table.fetch
  obtain ⟨hfirst, hover⟩ := advance_isOver hadvance
  exact ⟨listing, hadvance, hfirst, hover.fetchesFrom⟩

/-- **Listings of a table.**  One with more pages than one needs a project; its walks follow the
chain of its first page, and one that has no other page is walked along without fetching any. -/
theorem advance_walks (table : PageTable α) (first : ListPage α) (scope : ListScope) :
    (first.nextMarker.isSome = true → scope.project.isNothing = true →
      (advance first scope table.fetch : Except Error (Paged τ σ (Value × ListScope) α))
          = .error (.paging .noProject) ∧
        (Error.paging .noProject).kind = .paginationScope) ∧
    (first.nextMarker = none ∨ scope.project.isNothing = false →
      ∃ listing : Paged τ σ (Value × ListScope) α, advance first scope table.fetch = .ok listing ∧
        listing.first = first ∧ listing.Follows table scope ∧
        (first.nextMarker = none → ∀ (limit count : Nat) (s : Session τ σ (Value × ListScope)),
          (listing.concat limit).perform s = (.ok first.items, s) ∧
            ((listing.take limit count listing.start).perform s).2 = s)) := by
  refine ⟨fun hmarker hproject => ⟨advance_eq_error hmarker hproject, rfl⟩, fun h => ?_⟩
  obtain ⟨listing, hadvance, rfl, hfetch⟩ := advance_fetches (τ := τ) (σ := σ) table h
  have hfollows := hfetch.follows
  refine ⟨listing, hadvance, rfl, hfollows, fun hnone limit count s => ⟨?_, ?_⟩⟩
  · have hstops : table.Stops listing.first.nextMarker [] (.ok ()) := hnone ▸ .ended
    simpa [Except.map] using hfollows.concat (.here listing.first) hstops limit (Nat.zero_le _) s
  · rw [start, hnone]
    exact take_unmarked listing limit count listing.first.items s

/-- A table with an empty page on the way, and nothing behind its last marker. -/
def brokenTable : PageTable Nat := fun marker =>
  if marker = "a" then .ok { nextMarker := some "b" }
  else if marker = "b" then .ok { items := [2, 3], nextMarker := some "c" }
  else .error (.raised .runtime "no such page")

/-- A session in which nothing has happened. -/
def freshSession : Session Float Unit (Value × ListScope) := { now := 0.0, world := () }

theorem advance_walks_brokenTable :
    ∃ listing, advance { items := [1], nextMarker := some "a" } { project := "p" }
        brokenTable.fetch = .ok listing ∧
      (listing.concat 3).perform freshSession
        = (.error (.failed (.raised .runtime "no such page")),
            freshSession.fetched { project := "p" } ["a", "b", "c"]) ∧
      ∃ cursor t, (listing.take 3 3 listing.start).perform freshSession
        = (.ok (⟨[1, 2, 3], false⟩, cursor), t) := by
  obtain ⟨listing, hadvance, hfirst, hfollows, -⟩ :=
    (advance_walks (τ := Float) (σ := Unit) brokenTable ⟨[1], some "a"⟩ { project := "p" }).2
      (.inr rfl)
  have hleads : brokenTable.Leads listing.first ["a", "b"]
      [⟨[1], some "a"⟩, ⟨[], some "b"⟩] ⟨[2, 3], some "c"⟩ := by
    rw [hfirst]
    exact .next rfl rfl (.next rfl rfl (.here _))
  have hstops : brokenTable.Stops (some "c") ["c"]
      (.error (.raised .runtime "no such page")) := .raised rfl
  obtain ⟨cursor, t, htake, -⟩ := hfollows.stopped hleads hstops 3 (Nat.le_refl 3) freshSession
  exact ⟨listing, hadvance, hfollows.concat hleads hstops 3 (Nat.le_refl 3) freshSession, cursor,
    t, htake⟩

end Paged

end ComputeNodes

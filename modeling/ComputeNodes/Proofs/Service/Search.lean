/-
The first item of a listing.

The pages of a listing are asked for one after the other until one of them holds an item, so the
item found is the first one of the whole listing, and nothing is asked for behind its page.  What a
server would answer there, and whether that is a page at all, makes no difference.

`Chained` is the chain of answers that a server has for a listing; it ends with the first answer
that holds no token, and that may be an error.  `upToItem` are the answers that are asked for, and
`search` is what they come to (`first_searched`).  A machine type is looked up across all zones by
such a search in a listing of its name.
-/
import ComputeNodes.Proofs.Service.Pages

namespace ComputeNodes

namespace Paged

variable {τ σ ε α : Type} {listing : Paged τ σ ε α}

/-- The item that a walk takes next, if there is one. -/
def item? (listing : Paged τ σ ε α) (limit : Nat) (cursor : Cursor α) : Act τ σ ε (Option α) := do
  let (item, _) ← listing.draw limit cursor
  return item

theorem item?_here (limit : Nat) (item : α) (rest : List α) (next : Option Value) :
    listing.item? limit (.reading (item :: rest) next) = pure (some item) := by
  rw [item?, draw]
  rfl

theorem item?_ended (limit : Nat) : listing.item? limit (.reading [] none) = pure none := by
  rw [item?, draw]
  rfl

theorem item?_more (limit : Nat) (marker : Value) :
    listing.item? (limit + 1) (.reading [] (some marker)) = (do
      let page ← listing.next marker
      listing.item? limit (.reading page.items page.nextMarker)) := by
  rw [item?, draw, bind_assoc]
  rfl

end Paged

namespace Listed

variable {what : Listed} {τ σ α S : Type} {respond : S → Value → what.Answer × S} {st st' : S}
  {project : Value} {answer : what.Answer} {answers : List what.Answer} {item : what.Item}
  {rest : List what.Item}

/-! ### Answers up to an item -/

/-- The answers behind one, when `respond` answers, up to the first that holds no token. -/
inductive Chained (respond : S → Value → what.Answer × S) :
    S → what.Answer → List what.Answer → Prop
  | last {st : S} {answer : what.Answer} (last : nextToken answer = none) :
    Chained respond st answer []
  | next {st st' : S} {answer following : what.Answer} {answers : List what.Answer} {token : Value}
    (continued : nextToken answer = some token) (sendable : token.IsSendable)
    (answered : respond st token = (following, st'))
    (onward : Chained respond st' following answers) :
    Chained respond st answer (following :: answers)

/-- The answers to a listing, when `respond` answers, up to the first that holds no token. -/
inductive Answered (respond : S → Value → what.Answer × S) (st : S) : List what.Answer → Prop
  | first {st' : S} {first : what.Answer} {others : List what.Answer}
    (answered : respond st .null = (first, st')) (onward : Chained respond st' first others) :
    Answered respond st (first :: others)

/-- Whether an answer holds an item. -/
def holdsItem (what : Listed) (project : Value) (answer : what.Answer) : Bool :=
  !(what.itemsIn project answer).isEmpty

/-- The answers up to the first one that holds an item, or all of them if none does. -/
def upToItem (what : Listed) (project : Value) (answers : List what.Answer) : List what.Answer :=
  answers.take (answers.findIdx (what.holdsItem project) + 1)

/-- What looking for an item comes to: the first one that an answer holds, unless an error is in
front of it. -/
def search (what : Listed) (project : Value) : List what.Answer → Except Halt (Option what.Item)
  | [] => .ok none
  | answer :: answers =>
    match what.readPage project answer with
    | .error halt => .error halt
    | .ok page =>
      match page.items.head? with
      | some item => .ok (some item)
      | none => search what project answers

theorem isPage_of_items (h : what.itemsIn project answer = item :: rest) : IsPage answer := by
  intro error herror
  rw [herror] at h
  cases h

theorem exists_error_of_not_isPage (h : ¬ IsPage answer) :
    ∃ error, answer = .error error ∧ error.isNotFound = false := by
  cases answer with
  | ok message => exact absurd nofun h
  | error error =>
    refine ⟨error, rfl, ?_⟩
    by_contra hfound
    refine h fun other hother => ?_
    cases hother
    simpa using hfound

theorem upToItem_of_items (h : what.itemsIn project answer = item :: rest) :
    what.upToItem project (answer :: answers) = [answer] := by
  have hholds : what.holdsItem project answer = true := by simp [holdsItem, h]
  simp [upToItem, List.findIdx_cons, hholds]

theorem upToItem_of_empty (h : what.itemsIn project answer = []) :
    what.upToItem project (answer :: answers) = answer :: what.upToItem project answers := by
  have hholds : what.holdsItem project answer = false := by simp [holdsItem, h]
  simp [upToItem, List.findIdx_cons, hholds]

theorem search_of_items (h : what.itemsIn project answer = item :: rest) :
    what.search project (answer :: answers) = .ok (some item) := by
  have hread := readPage_of_isPage (isPage_of_items h) project
  simp [search, hread, pageIn, h]

theorem search_of_empty (hpage : IsPage answer) (h : what.itemsIn project answer = []) :
    what.search project (answer :: answers) = what.search project answers := by
  have hread := readPage_of_isPage hpage project
  simp [search, hread, pageIn, h]

theorem readPage_of_error {error : Error} (h : error.isNotFound = false) :
    what.readPage project (.error error) = .error (.failed error) := by
  simp [readPage, readAnswer, h, Except.map]

theorem search_of_error {error : Error} (h : error.isNotFound = false) :
    what.search project (.error error :: answers) = .error (.failed error) := by
  simp [search, readPage_of_error h]

/-- Among pages, the first item is found. -/
theorem search_eq_head? (h : ∀ answer ∈ answers, IsPage answer) :
    what.search project answers = .ok (what.allIn project answers).head? := by
  induction answers with
  | nil => rfl
  | cons answer answers ih =>
    have hrest := ih fun other hother => h other (List.mem_cons_of_mem answer hother)
    cases hitems : what.itemsIn project answer with
    | nil =>
      rw [search_of_empty (h answer List.mem_cons_self) hitems, hrest, allIn, allIn,
        List.flatMap_cons, hitems, List.nil_append]
    | cons item rest =>
      rw [search_of_items hitems, allIn, List.flatMap_cons, hitems]
      rfl

/-- Whatever the answers end with, the first item is found if there is one. -/
theorem Chained.search_of_item (h : Chained respond st answer answers)
    (hfirst : (what.allIn project (answer :: answers)).head? = some item) :
    what.search project (answer :: answers) = .ok (some item) := by
  induction h with
  | @last st answer last =>
    cases hitems : what.itemsIn project answer with
    | nil => simp [allIn, hitems] at hfirst
    | cons other rest =>
      rw [search_of_items hitems]
      simpa [allIn, hitems] using hfirst
  | @next st st' answer following answers token continued sendable answered onward ih =>
    cases hitems : what.itemsIn project answer with
    | nil =>
      rw [search_of_empty (isPage_of_nextToken continued) hitems]
      refine ih ?_
      rw [allIn, List.flatMap_cons, hitems, List.nil_append] at hfirst
      exact hfirst
    | cons other rest =>
      rw [search_of_items hitems]
      simpa [allIn, hitems] using hfirst

/-- An error is come upon if there is no item. -/
theorem Chained.search_of_error {error : Error} (h : Chained respond st answer answers)
    (hnone : what.allIn project (answer :: answers) = [])
    (herror : .error error ∈ answer :: answers) (hfaulty : error.isNotFound = false) :
    what.search project (answer :: answers) = .error (.failed error) := by
  induction h with
  | @last st answer last =>
    obtain rfl := List.mem_singleton.mp herror
    exact Listed.search_of_error hfaulty
  | @next st st' answer following answers token continued sendable answered onward ih =>
    rw [allIn, List.flatMap_cons, List.append_eq_nil_iff] at hnone
    rw [search_of_empty (isPage_of_nextToken continued) hnone.1]
    refine ih hnone.2 ?_
    rcases List.mem_cons.mp herror with hhere | hbehind
    · rw [← hhere] at continued
      cases continued
    · exact hbehind

/-! ### Looking for an item -/

/-- What looking for an item behind a token comes to: pages are asked for up to the first one that
holds an item. -/
structure Searched (query : ListQuery) (token : Value) (answers : List what.Answer)
    (added : List (Event τ Exchange)) (r : Except Halt (Option what.Item)) : Prop where
  asked : requests added
    = what.exchanges query (fun _ => []) token (what.upToItem query.project answers)
  found : r = what.search query.project answers

/-- The same where the first one of the answers has been read. -/
structure SearchedBehind (query : ListQuery) (answer : what.Answer) (answers : List what.Answer)
    (added : List (Event τ Exchange)) (r : Except Halt (Option what.Item)) : Prop where
  asked : requests added = what.exchanges query (fun _ => []) ((nextToken answer).getD .null)
    (what.upToItem query.project (answer :: answers)).tail
  found : r = what.search query.project (answer :: answers)

theorem SearchedBehind.of_items {query : ListQuery}
    (h : what.itemsIn query.project answer = item :: rest) :
    SearchedBehind query answer answers ([] : List (Event τ Exchange)) (.ok (some item)) := by
  refine ⟨?_, ?_⟩
  · rw [upToItem_of_items h]
    rfl
  · rw [search_of_items h]

theorem SearchedBehind.of_last {query : ListQuery} (hpage : IsPage answer)
    (h : what.itemsIn query.project answer = []) :
    SearchedBehind query answer [] ([] : List (Event τ Exchange)) (.ok none) := by
  refine ⟨?_, ?_⟩
  · rw [upToItem_of_empty h]
    rfl
  · rw [search_of_empty hpage h]
    rfl

/-- Behind a page without items, the search is that behind its token. -/
theorem Searched.behind {query : ListQuery} {token : Value} {added : List (Event τ Exchange)}
    {r : Except Halt (Option what.Item)} (h : Searched query token answers added r)
    (continued : nextToken answer = some token) (hempty : what.itemsIn query.project answer = []) :
    SearchedBehind query answer answers added r := by
  refine ⟨?_, ?_⟩
  · rw [upToItem_of_empty hempty, continued]
    exact h.asked
  · rw [search_of_empty (isPage_of_nextToken continued) hempty]
    exact h.found

/-- What comes of asking for a page: it is asked for once, and either something is made of it, and
`G` says what, or its answer is passed on as an error. -/
inductive Brought (query : ListQuery) (token : Value) (answer : what.Answer)
    (G : α → Session τ σ Exchange → Prop) :
    List (Event τ Exchange) → Except Halt α → Session τ σ Exchange → Prop
  | page {added : List (Event τ Exchange)} {a : α} {t : Session τ σ Exchange}
    (asked : requests added = [⟨.list what { query with pageToken := token }, answer⟩])
    (isPage : IsPage answer) (made : G a t) : Brought query token answer G added (.ok a) t
  | failed {added : List (Event τ Exchange)} {error : Error} {t : Session τ σ Exchange}
    (asked : requests added = [⟨.list what { query with pageToken := token }, answer⟩])
    (isError : answer = .error error) (faulty : error.isNotFound = false) :
    Brought query token answer G added (.error (.failed error)) t

theorem Chained.eq_nil_of_error {error : Error}
    (h : Chained respond st (.error error) answers) : answers = [] := by
  cases h with
  | last last => rfl
  | next continued sendable answered onward => cases continued

/-- Where the page that is asked for holds no item, the search goes on behind it. -/
theorem searched_bind {query : ListQuery} {token : Value} {G : α → Session τ σ Exchange → Prop}
    {fetch : Calls τ σ α} {rest : α → Calls τ σ (Option what.Item)} {s : Session τ σ Exchange}
    (hchain : Chained respond st answer answers)
    (hfetch : fetch.Goes s (Brought query token answer G))
    (hrest : IsPage answer → ∀ a t, G a t →
      (rest a).Goes t fun added r _ => SearchedBehind query answer answers added r) :
    (fetch >>= rest).Goes s fun added r _ => Searched query token (answer :: answers) added r := by
  refine hfetch.bind ?_ ?_
  · intro added a t h
    cases h with
    | page asked isPage made =>
      refine (hrest isPage a t made).mono fun more r u hbehind => ⟨?_, hbehind.found⟩
      rw [requests, Event.calls_append, ← requests, ← requests, asked, hbehind.asked]
      rfl
  · intro added halt t h
    cases h with
    | failed asked isError faulty =>
      rw [isError] at asked hchain ⊢
      obtain rfl := hchain.eq_nil_of_error
      refine ⟨asked, ?_⟩
      rw [search_of_error faulty]

section

variable [Server τ σ] {scope : ListScope} {R : S → τ → σ → Prop} {token : Value}
  {s : Session τ σ Exchange} {listing : Paged τ σ Exchange what.Item} {limit : Nat}

omit [Server τ σ] in
/-- A page that is read off its answer is brought so. -/
theorem brought_of_answered {query : ListQuery} {fetch : Calls τ σ (ListPage what.Item)}
    (h : fetch.Goes s fun added r t =>
      requests added = [⟨.list what { query with pageToken := token }, answer⟩] ∧
        r = what.readPage project answer ∧ R st' t.now t.world) :
    fetch.Goes s (Brought query token answer fun page t =>
      page = what.pageIn project answer ∧ R st' t.now t.world) := by
  refine h.mono ?_
  intro added r t h
  obtain ⟨hasked, hread, hR⟩ := h
  by_cases hpage : IsPage answer
  · rw [hread, readPage_of_isPage hpage]
    exact .page hasked hpage ⟨rfl, hR⟩
  · obtain ⟨error, hanswer, hfaulty⟩ := exists_error_of_not_isPage hpage
    have hfailed : what.readPage project answer = .error (.failed error) := by
      rw [hanswer, readPage_of_error hfaulty]
    rw [hread, hfailed]
    exact .failed hasked hanswer hfaulty

/-- **A walk behind a page** looks for the next item behind it, if the page holds none. -/
theorem item?_searched (hfit : scope.IsFit) (hmirrors : Mirrors scope.query respond R)
    (hchain : Chained respond st answer answers) (hpage : IsPage answer)
    (hnext : (nextToken answer).isSome = true → what.GoesOn scope listing)
    (hlimit : answers.length ≤ limit) (s : Session τ σ Exchange) (hR : R st s.now s.world) :
    (listing.item? limit
      (.reading (what.itemsIn scope.project answer) (nextToken answer))).Goes s fun added r _ =>
        SearchedBehind scope.query answer answers added r := by
  -- along the chain: a page with an item ends the search, an empty one hands it on to the next
  induction hchain generalizing limit s with
  | @last st answer last =>
    cases hitems : what.itemsIn scope.project answer with
    | cons item rest =>
      rw [Paged.item?_here]
      exact Act.Goes.pure (.of_items hitems)
    | nil =>
      rw [last, Paged.item?_ended]
      exact Act.Goes.pure (.of_last hpage hitems)
  | @next st st' answer following answers token continued sendable answered onward ih =>
    cases hitems : what.itemsIn scope.project answer with
    | cons item rest =>
      rw [Paged.item?_here]
      exact Act.Goes.pure (.of_items hitems)
    | nil =>
      obtain ⟨limit, rfl⟩ := Nat.exists_eq_succ_of_ne_zero (Nat.ne_zero_of_lt hlimit)
      have hgoesOn := hnext (by rw [continued]; rfl)
      have hfetch := brought_of_answered (hgoesOn.next_answered hfit hmirrors hR sendable
        (orNull_of_nextToken continued) answered)
      rw [continued, Paged.item?_more]
      refine (searched_bind onward hfetch fun hfollowing page t hmade => ?_).mono ?_
      · rw [hmade.1]
        exact ih hfollowing (fun _ => hgoesOn) (Nat.le_of_succ_le_succ hlimit) t hmade.2
      · intro added r t h
        exact h.behind continued hitems

theorem list_brought (hfit : scope.IsFit) (hmirrors : Mirrors scope.query respond R)
    (hR : R st s.now s.world) (hanswered : respond st .null = (answer, st')) :
    (what.list scope).Goes s (Brought scope.query .null answer fun listing t =>
      (listing.first = what.pageIn scope.project answer ∧
        ((nextToken answer).isSome = true → what.GoesOn scope listing)) ∧ R st' t.now t.world) := by
  by_cases hpage : IsPage answer
  · refine (list_served hfit hmirrors hR hanswered hpage).mono ?_
    rintro added _ t ⟨hasked, hR, listing, rfl, hlisting⟩
    exact .page hasked hpage ⟨hlisting, hR⟩
  · have hfirst := page_answered hfit hmirrors hR (.inl rfl) rfl hanswered
    refine (brought_of_answered hfirst).bind ?_ ?_
    · intro added page t h
      cases h with
      | page asked isPage made => exact absurd isPage hpage
    · intro added halt t h
      cases h with
      | failed asked isError faulty => exact .failed asked isError faulty

/-- **The first item of a listing** is looked for from page to page. -/
theorem first_searched (hfit : scope.IsFit) (hmirrors : Mirrors scope.query respond R)
    (hanswered : Answered respond st answers) (hlimit : answers.length ≤ limit + 1)
    (s : Session τ σ Exchange) (hR : R st s.now s.world) :
    (do let listing ← what.list scope; listing.head? limit : Calls τ σ _).Goes s fun added r _ =>
      Searched scope.query .null answers added r := by
  obtain ⟨answered, onward⟩ := hanswered
  refine searched_bind onward (list_brought hfit hmirrors hR answered) ?_
  intro hpage listing t h
  obtain ⟨⟨hfirst, hnext⟩, hR⟩ := h
  show (listing.item? limit (.reading listing.first.items listing.first.nextMarker)).Goes t _
  rw [hfirst]
  exact item?_searched hfit hmirrors onward hpage hnext (Nat.le_of_succ_le_succ hlimit) t hR

end

end Listed

/-! ### Machine types across all zones -/

section

variable {project zone name : Value}

/-- A machine type can be looked up across all zones by any name that can be sent. -/
theorem isFit_machineTypeScope (hproject : project.isNothing = false)
    (hsendable : project.IsSendable) (hzone : zone.isNothing = true)
    (hname : Text.halves? name.plain.toList = none) :
    (machineTypeScope project zone name).IsFit := by
  have hfilter : Text.halves? ("name = " ++ name.plain).toList = none := by
    rw [String.toList_append]
    exact Text.halves?_append_eq_none_iff.mpr ⟨by decide, hname⟩
  refine ⟨hproject, hsendable, ?_, ?_, .inl rfl⟩
  · left
    show zone.orNull = .null
    rw [Value.orNull, hzone]
    rfl
  · show (Value.orNull (.text ("name = " ++ name.plain))).IsSendable
    exact .inr ⟨_, rfl, hfilter⟩

/-- What the pages of a listing of a name are asked for with, but for their tokens. -/
def nameQuery (project name : Value) : ListQuery where
  project := project
  filter := .text ("name = " ++ name.plain)

theorem query_machineTypeScope (hzone : zone.isNothing = true) :
    (machineTypeScope project zone name).query = nameQuery project name := by
  have hnull : zone.orNull = .null := by
    rw [Value.orNull, hzone]
    rfl
  show ({ project, zone := zone.orNull, filter := _ } : ListQuery) = _
  rw [hnull]
  rfl

/-- **Looking up a machine type across all zones**, by a name that can be sent, finds the first one
that a listing of the name gives, page after page, group after group.  It asks for the pages one
after the other, every time for those of the name, up to the first page that holds one, or for all
of them if none does.  An answer behind that page makes no difference, and where there is no machine
type, an answer that is no page is what the lookup comes to. -/
theorem getMachineType_searches {τ σ : Type} [Server τ σ] {limit : Nat}
    {answers : List (Listed.Answer (.machineTypes true))} (s : Session τ σ Exchange)
    (hproject : project.isNothing = false) (hsendable : project.IsSendable)
    (hzone : zone.isNothing = true) (hname : Text.halves? name.plain.toList = none)
    (hanswered : Listed.Answered (Listed.serve (.machineTypes true) (nameQuery project name))
      (s.now, s.world) answers)
    (hlimit : answers.length ≤ limit + 1) :
    ∃ r t, (getMachineType limit project zone name).perform s = (r, t) ∧
      t.calls = s.calls ++ Listed.exchanges (.machineTypes true) (nameQuery project name)
        (fun _ => []) .null (Listed.upToItem (.machineTypes true) project answers) ∧
      ((∀ answer ∈ answers, Listed.IsPage answer) →
        r = .ok (Listed.allIn (.machineTypes true) project answers).head? ∧
          (r = .ok none ↔
            ∀ answer ∈ answers, Listed.itemsIn (.machineTypes true) project answer = [])) ∧
      (∀ item, (Listed.allIn (.machineTypes true) project answers).head? = some item →
        r = .ok (some item)) ∧
      ∀ error, .error error ∈ answers → error.isNotFound = false →
        Listed.allIn (.machineTypes true) project answers = [] →
        r = .error (.failed error) := by
  have hfit : (machineTypeScope project zone name).IsFit :=
    isFit_machineTypeScope hproject hsendable hzone hname
  have hquery : (machineTypeScope project zone name).query = nameQuery project name :=
    query_machineTypeScope hzone
  rw [← hquery] at hanswered
  have hfirst := Listed.first_searched hfit (Listed.mirrors_serve _ _) hanswered hlimit s rfl
  have hlookup : (getMachineType limit project zone name).Goes s fun added r _ =>
      Listed.Searched (machineTypeScope project zone name).query .null answers added r := by
    unfold getMachineType
    rw [if_pos hzone]
    exact hfirst
  rw [hquery] at hlookup
  obtain ⟨added, hadded, hasked, hfound⟩ := hlookup
  refine ⟨_, _, Prod.ext hfound rfl, ?_, ?_, ?_, ?_⟩
  · exact (Session.calls_of_events hadded).trans (congrArg (s.calls ++ ·) hasked)
  · intro hpages
    have hhead : Listed.search (.machineTypes true) (nameQuery project name).project answers
        = .ok (Listed.allIn (.machineTypes true) project answers).head? :=
      Listed.search_eq_head? hpages
    refine ⟨hhead, ?_⟩
    rw [hhead, Except.ok.injEq, List.head?_eq_none_iff]
    exact List.flatMap_eq_nil_iff
  · intro item hitem
    obtain ⟨answered, onward⟩ := hanswered
    exact onward.search_of_item hitem
  · intro error herror hfaulty hnone
    obtain ⟨answered, onward⟩ := hanswered
    exact onward.search_of_error hnone herror hfaulty

end

/-- The answers to a listing of a name: a page whose only group is empty, one whose second group
holds a machine type, and an error. -/
def groupedAnswers : List (Listed.Answer (.machineTypes true)) :=
  [.ok { items := [("zones/y", [])], nextPageToken := "t" },
   .ok { items := [("zones/y", []), ("zones/z", [{ name := "n1", zone := "zones/z" }])]
         nextPageToken := "u" },
   .error (.raised (.service .serviceUnavailable) "later")]

/-- A service that gives these answers. -/
def groupedPages : Session Float Script Exchange where
  now := 0.0
  world := groupedAnswers.map fun answer => { endpoint := .list (.machineTypes true), answer }

/-- Nothing is asked for behind the second page. -/
theorem getMachineType_searches_groupedPages :
    ∃ t, (getMachineType 2 "p" .null "n1").perform groupedPages
          = (.ok (some { name := "n1", zone := "z" }), t) ∧
      t.calls.map Exchange.request
        = [.list (.machineTypes true) { project := "p", filter := "name = n1" },
            .list (.machineTypes true)
              { project := "p", pageToken := "t", filter := "name = n1" }] := by
  have hanswered : Listed.Answered
      (Listed.serve (.machineTypes true) (nameQuery "p" "n1"))
      (groupedPages.now, groupedPages.world) groupedAnswers :=
    .first rfl (.next rfl (.inr ⟨"t", rfl, by decide⟩) rfl
      (.next rfl (.inr ⟨"u", rfl, by decide⟩) rfl (.last rfl)))
  have hitem : (Listed.allIn (.machineTypes true) "p" groupedAnswers).head?
      = some { name := "n1", zone := "z" } := by decide +kernel
  have hzone : Value.null.isNothing = true := rfl
  have hlimit : groupedAnswers.length ≤ 2 + 1 := by decide
  obtain ⟨r, t, hrun, hcalls, -, hfound, -⟩ := getMachineType_searches groupedPages rfl
    (.inr ⟨"p", rfl, by decide⟩) hzone (by decide) hanswered hlimit
  rw [hfound _ hitem] at hrun
  refine ⟨t, hrun, ?_⟩
  rw [hcalls]
  rfl

end ComputeNodes

/-
What a listing asks the service for, page by page.

A listing asks for one page after the other, every time for the page of the token that it was
answered with before.  Whatever it is that answers, the answers to a listing are a chain (`Served`):
all but the last one hold a token, and the next one is the answer to that.  A walk follows the chain
(`fold_served`), so what it asks for can be read off the answers (`exchanges`), and so can what it
comes upon (`itemsIn`).

What is done with the pages may ask for something itself, as long as the listing goes on to be
answered as if nothing had happened (`Mirrors`).
-/
import ComputeNodes.Proofs.Service.Client
import ComputeNodes.Proofs.Service.Texts
import ComputeNodes.Service.Script

namespace ComputeNodes

theorem Value.something?_eq_some_iff {v w : Value} :
    v.something? = some w ↔ v.isNothing = false ∧ v = w := by
  cases h : v.isNothing <;> simp [something?, h]

/-! ### Scopes -/

/-- A page can be asked for if its texts can be sent and its number of results is not too large. -/
theorem Request.check_list {what : Listed} {query : ListQuery}
    (htexts : ∀ v ∈ [query.project, query.zone, query.pageToken, query.filter], v.IsSendable)
    (htable : Texts.holdsTable query.maxResults = false)
    (hcount : ∀ message, checkMaxResults message query.maxResults = .ok ()) :
    (Request.list what query).check = .ok () := by
  have hsingles (message : String) :
      Texts.check message ((Request.list what query).texts.map Prod.snd) = .ok () :=
    Texts.check_eq_ok_iff.mpr htexts
  simp only [check, htable, hsingles, hcount, Bool.false_eq_true, if_false]
  rfl

/-- What every page is asked for with in a scope, but for its token. -/
def ListScope.query (scope : ListScope) : ListQuery where
  project := scope.project
  zone := scope.zone.orNull
  filter := (scope.options.getD {}).filter.orNull
  maxResults := (scope.options.getD {}).maxResults.orNull

theorem ListScope.ofScope_eq (scope : ListScope) {token : Value} (h : token.orNull = token) :
    ListQuery.ofScope scope token = { scope.query with pageToken := token } := by
  rw [ListQuery.ofScope, h]
  rfl

/-- Whether pages can be asked for in a scope. -/
structure ListScope.IsFit (scope : ListScope) : Prop where
  given : scope.project.isNothing = false
  project : scope.project.IsSendable
  zone : scope.zone.orNull.IsSendable
  filter : (scope.options.getD {}).filter.orNull.IsSendable
  maxResults : (scope.options.getD {}).maxResults = .null ∨
    ∃ n : Nat, n < Request.maxResultsBound ∧ (scope.options.getD {}).maxResults = .int n

namespace ListScope.IsFit

variable {scope : ListScope}

theorem check_maxResults (h : scope.IsFit) :
    Texts.holdsTable (scope.options.getD {}).maxResults.orNull = false ∧
      ∀ message, Request.checkMaxResults message (scope.options.getD {}).maxResults.orNull
        = .ok () := by
  rcases h.maxResults with hnull | ⟨n, hbound, hint⟩
  · rw [hnull]
    exact ⟨rfl, fun _ => rfl⟩
  · rw [hint, Value.orNull]
    split
    · exact ⟨rfl, fun _ => rfl⟩
    · exact ⟨rfl, fun _ => if_pos hbound⟩

theorem check (h : scope.IsFit) (what : Listed) {token : Value} (htoken : token.orNull.IsSendable) :
    (Request.list what (.ofScope scope token)).check = .ok () := by
  obtain ⟨htable, hcount⟩ := h.check_maxResults
  refine Request.check_list ?_ htable hcount
  simp [ListQuery.ofScope, h.project, h.zone, h.filter, htoken]

end ListScope.IsFit

/-! ### One thing after the other -/

section

variable {τ σ S β α : Type}

/-- Whether each one of some things is dealt with by certain requests, as `Q` says of all those
that came before and this one, while what `R` says of the place stays true. -/
def Deals (R : S → τ → σ → Prop) (step : β → α → Calls τ σ β) (between : α → List Exchange)
    (Q : List α → β → Prop) (things : List α) : Prop :=
  ∀ thing ∈ things, ∀ past b st (s : Session τ σ Exchange), Q past b → R st s.now s.world →
    (step b thing).Goes s fun added r t =>
      requests added = between thing ∧ R st t.now t.world ∧
        ∃ b', r = .ok b' ∧ Q (past ++ [thing]) b'

/-- Things that are dealt with one by one are dealt with all. -/
theorem Deals.foldlM {R : S → τ → σ → Prop} {step : β → α → Calls τ σ β}
    {between : α → List Exchange} {Q : List α → β → Prop} {things : List α}
    (h : Deals R step between Q things) {past : List α} {b : β} (hQ : Q past b) (st : S)
    {s : Session τ σ Exchange} (hR : R st s.now s.world) :
    (things.foldlM step b).Goes s fun added r t =>
      requests added = things.flatMap between ∧ R st t.now t.world ∧
        ∃ b', r = .ok b' ∧ Q (past ++ things) b' := by
  induction things generalizing past b s with
  | nil =>
    rw [← List.append_nil past] at hQ
    exact Act.Goes.pure ⟨rfl, hR, b, rfl, hQ⟩
  | cons thing things ih =>
    rw [List.foldlM_cons]
    refine (h thing List.mem_cons_self past b st s hQ hR).bind ?_ ?_
    · rintro added _ t ⟨hrequests, hR, b, hb, hQ⟩
      cases hb
      have hrest := ih (fun other hother => h other (List.mem_cons_of_mem thing hother)) hQ hR
      refine hrest.mono fun more r u ⟨hlater, hR, b', hb, hQ⟩ => ⟨?_, hR, b', hb, ?_⟩
      · rw [requests, Event.calls_append, ← requests, ← requests, hrequests, hlater,
          List.flatMap_cons]
      · rwa [List.append_assoc] at hQ
    · rintro added halt t ⟨-, -, b', hb, -⟩
      cases hb

end

namespace Listed

/-! ### Answers -/

/-- An answer to the request for a page. -/
abbrev Answer (what : Listed) : Type := Except Error (PageMessage what.Message)

variable {what : Listed}

/-- Whether an answer holds a page.  Where there is no such thing, the page is empty and the last
one. -/
def IsPage (answer : what.Answer) : Prop :=
  ∀ error, answer = .error error → error.isNotFound = true

/-- The token of the next page. -/
def nextToken : what.Answer → Option Value
  | .ok message => message.nextPageToken.something?
  | .error _ => none

/-- The records that the messages on a page tell of: one each, or, across all zones, those of one
group after the other. -/
def recordsOf (project : Value) : (what : Listed) → List what.Message → List what.Item
  | .instances, messages => messages.map InstanceMessage.toInstance
  | .machineTypes false, messages => messages.map MachineTypeMessage.toMachineType
  | .machineTypes true, groups =>
    groups.flatMap fun (_, messages) => messages.map MachineTypeMessage.toMachineType
  | .images, messages => messages.map fun message => message.toImage project
  | .zones, messages => messages.map ZoneMessage.toZone

theorem flatMap_read (project : Value) (what : Listed) (messages : List what.Message) :
    messages.flatMap (what.read project) = recordsOf project what messages := by
  cases what with
  | machineTypes acrossZones =>
    cases acrossZones with
    | false => exact List.map_eq_flatMap.symm
    | true => rfl
  | instances | images | zones => exact List.map_eq_flatMap.symm

/-- The records of the page that an answer holds. -/
def itemsIn (what : Listed) (project : Value) : what.Answer → List what.Item
  | .ok page => recordsOf project what page.items
  | .error _ => []

/-- The records of the pages that some answers hold, in order. -/
def allIn (what : Listed) (project : Value) (answers : List what.Answer) : List what.Item :=
  answers.flatMap (what.itemsIn project)

theorem allIn_concat (project : Value) (answers : List what.Answer) (last : what.Answer) :
    what.allIn project (answers ++ [last])
      = what.allIn project answers ++ what.itemsIn project last := by
  rw [allIn, List.flatMap_append, List.flatMap_singleton, allIn]

/-- The page that an answer holds. -/
def pageIn (what : Listed) (project : Value) (answer : what.Answer) : ListPage what.Item where
  items := what.itemsIn project answer
  nextMarker := nextToken answer

theorem readPage_of_isPage {answer : what.Answer} (h : IsPage answer) (project : Value) :
    what.readPage project answer = .ok (what.pageIn project answer) := by
  cases answer with
  | ok message =>
    rw [pageIn, itemsIn, ← flatMap_read]
    rfl
  | error error =>
    rw [readPage, readAnswer, h error rfl]
    rfl

theorem isPage_of_nextToken {answer : what.Answer} {token : Value}
    (h : nextToken answer = some token) : IsPage answer := by
  rintro error rfl
  cases h

theorem orNull_of_nextToken {answer : what.Answer} {token : Value}
    (h : nextToken answer = some token) : token.orNull = token := by
  cases answer with
  | ok message =>
    obtain ⟨hgiven, rfl⟩ := Value.something?_eq_some_iff.mp h
    simp [Value.orNull, hgiven]
  | error error => cases h

variable {S τ σ β : Type} {respond : S → Value → what.Answer × S} {st st' : S}
  {first answer : what.Answer} {answers others : List what.Answer}

/-- The answers behind one, when `respond` answers. -/
inductive Onward (respond : S → Value → what.Answer × S) :
    S → what.Answer → List what.Answer → S → Prop
  | ended {st : S} {answer : what.Answer} (isPage : IsPage answer)
    (last : nextToken answer = none) : Onward respond st answer [] st
  | next {st st' st'' : S} {answer following : what.Answer} {answers : List what.Answer}
    {token : Value} (continued : nextToken answer = some token) (sendable : token.IsSendable)
    (answered : respond st token = (following, st'))
    (onward : Onward respond st' following answers st'') :
    Onward respond st answer (following :: answers) st''

/-- The answers to a listing, when `respond` answers. -/
inductive Served (respond : S → Value → what.Answer × S) (st : S) :
    List what.Answer → S → Prop
  | pages {st' st'' : S} {first : what.Answer} {others : List what.Answer}
    (answered : respond st .null = (first, st')) (onward : Onward respond st' first others st'') :
    Served respond st (first :: others) st''

theorem Onward.isPage (h : Onward respond st answer answers st') : IsPage answer := by
  cases h with
  | ended isPage last => exact isPage
  | next continued sendable answered onward => exact isPage_of_nextToken continued

/-- What a listing asks for, from the page of a token on, with its answers, and what is asked for
between them.  Nothing but the token changes from page to page. -/
def exchanges (what : Listed) (query : ListQuery) (between : what.Answer → List Exchange) :
    Value → List what.Answer → List Exchange
  | _, [] => []
  | token, answer :: answers =>
    ⟨.list what { query with pageToken := token }, answer⟩ ::
      (between answer ++ exchanges what query between ((nextToken answer).getD .null) answers)

/-! ### Walks -/

section

variable [Server τ σ]

/-- Whether requests for the pages of a listing are answered as `respond` says, wherever `R` says
that it stands. -/
def Mirrors (query : ListQuery) (respond : S → Value → what.Answer × S) (R : S → τ → σ → Prop) :
    Prop :=
  ∀ st now world token, R st now world →
    ∃ now' world', Server.respond now world (.list what { query with pageToken := token })
        = ((respond st token).1, now', world') ∧
      R (respond st token).2 now' world'

variable {scope : ListScope} {R : S → τ → σ → Prop} {token : Value} {s : Session τ σ Exchange}

/-- A page that is asked for is read off its answer. -/
theorem page_answered (hfit : scope.IsFit) (hmirrors : Mirrors scope.query respond R)
    (hR : R st s.now s.world) (hsendable : token.IsSendable) (htoken : token.orNull = token)
    (hanswered : respond st token = (answer, st')) :
    (what.page scope token).Goes s fun added r t =>
      requests added = [⟨.list what { scope.query with pageToken := token }, answer⟩] ∧
        r = what.readPage scope.project answer ∧ R st' t.now t.world := by
  refine (page_goes what scope token s).mono fun added r t h => ?_
  obtain ⟨now', world', hrespond, hR'⟩ := hmirrors st s.now s.world token hR
  have hfits := hfit.check what (htoken.symm ▸ hsendable)
  rw [hanswered] at hrespond hR'
  rw [scope.ofScope_eq htoken] at h hfits
  cases h with
  | refused fault unfit => cases hfits.symm.trans unfit
  | made answer' t fit respond' =>
    obtain ⟨rfl, hlater⟩ := Prod.mk.inj (hrespond.symm.trans respond')
    obtain ⟨rfl, rfl⟩ := Prod.mk.inj hlater
    exact ⟨rfl, rfl, hR'⟩

/-- The same where the answer holds a page. -/
theorem page_served (hfit : scope.IsFit)
    (hmirrors : Mirrors scope.query respond R) (hR : R st s.now s.world)
    (hsendable : token.IsSendable) (htoken : token.orNull = token)
    (hanswered : respond st token = (answer, st')) (hpage : IsPage answer) :
    (what.page scope token).Goes s fun added r t =>
      requests added
          = [⟨.list what { scope.query with pageToken := token }, answer⟩] ∧
        r = .ok (what.pageIn scope.project answer) ∧ R st' t.now t.world := by
  have hanswer := page_answered (s := s) hfit hmirrors hR hsendable htoken hanswered
  rwa [readPage_of_isPage hpage scope.project] at hanswer

variable {listing : Paged τ σ Exchange what.Item} {step : β → ListPage what.Item → Calls τ σ β}
  {between : what.Answer → List Exchange} {Q : List what.Answer → β → Prop}

/-- Whether a listing goes on by asking for the pages of its scope. -/
def GoesOn (what : Listed) (scope : ListScope) (listing : Paged τ σ Exchange what.Item) : Prop :=
  ∀ marker, listing.next marker = (do
    Act.log .trace .paging
      ("Fetching next page project=" ++ scope.project.plain ++ " zone=" ++ scope.zone.plain)
    what.page scope marker)

theorem GoesOn.next_answered (h : what.GoesOn scope listing) (hfit : scope.IsFit)
    (hmirrors : Mirrors scope.query respond R) (hR : R st s.now s.world)
    (hsendable : token.IsSendable) (htoken : token.orNull = token)
    (hanswered : respond st token = (answer, st')) :
    (listing.next token).Goes s fun added r t =>
      requests added = [⟨.list what { scope.query with pageToken := token }, answer⟩] ∧
        r = what.readPage scope.project answer ∧ R st' t.now t.world := by
  rw [h token]
  refine Act.Goes.bind_ok _ (Act.perform_log _ _ _ s) (Session.events_add _ _) ?_
  exact page_answered hfit hmirrors hR hsendable htoken hanswered

/-- A walk comes by the answers behind the first one. -/
theorem foldFrom_onward (hfit : scope.IsFit) (hmirrors : Mirrors scope.query respond R)
    (honward : Onward respond st answer answers st')
    (hnext : answers ≠ [] → what.GoesOn scope listing)
    (hdeals : Deals R (fun b answer => step b (what.pageIn scope.project answer)) between Q
      (answer :: answers))
    {limit : Nat} (hlimit : answers.length ≤ limit) {past : List what.Answer} {b : β}
    (hQ : Q past b) (s : Session τ σ Exchange) (hR : R st s.now s.world) :
    (listing.foldFrom step limit (what.pageIn scope.project answer) b).Goes s fun added r t =>
      requests added = between answer ++ what.exchanges scope.query between
          ((nextToken answer).getD .null) answers ∧
        R st' t.now t.world ∧ ∃ b', r = .ok b' ∧ Q (past ++ answer :: answers) b' := by
  induction honward generalizing limit past b s with
  | @ended st answer isPage last =>
    have hmarker : (what.pageIn scope.project answer).nextMarker = none := last
    rw [Paged.foldFrom_last step b limit hmarker, exchanges, List.append_nil]
    exact hdeals answer List.mem_cons_self past b st s hQ hR
  | @next st st' st'' answer following answers token continued sendable answered onward ih =>
    have hmarker : (what.pageIn scope.project answer).nextMarker = some token := continued
    obtain ⟨limit, rfl⟩ := Nat.exists_eq_succ_of_ne_zero (Nat.ne_zero_of_lt hlimit)
    have hfetch (t : Session τ σ Exchange) (hR : R st t.now t.world) :
        (listing.next token).Goes t fun added r u =>
          requests added
              = [⟨.list what { scope.query with pageToken := token }, following⟩] ∧
            r = .ok (what.pageIn scope.project following) ∧ R st' u.now u.world := by
      have hanswer := (hnext (List.cons_ne_nil _ _)).next_answered hfit hmirrors hR sendable
        (orNull_of_nextToken continued) answered
      rwa [readPage_of_isPage onward.isPage] at hanswer
    rw [Paged.foldFrom_more step b limit hmarker]
    refine (hdeals answer List.mem_cons_self past b st s hQ hR).bind ?_ ?_
    · rintro added _ t ⟨hrequests, hR, b', hb, hQ⟩
      cases hb
      refine (hfetch t hR).bind ?_ ?_
      · rintro more _ u ⟨hrequests', hpage, hR⟩
        cases hpage
        have hrest := ih (fun _ => hnext (List.cons_ne_nil _ _))
          (fun other hother => hdeals other (List.mem_cons_of_mem answer hother))
          (Nat.le_of_succ_le_succ hlimit) hQ u hR
        refine hrest.mono fun later r v ⟨hlater, hR, b'', hb, hQ⟩ => ⟨?_, hR, b'', hb, ?_⟩
        · rw [requests, Event.calls_append, Event.calls_append]
          rw [requests] at hrequests hrequests' hlater
          rw [hrequests, hrequests', hlater, continued]
          rfl
        · rwa [List.append_assoc] at hQ
      · rintro more halt u ⟨-, hpage, -⟩
        cases hpage
    · rintro added halt t ⟨-, -, b', hb, -⟩
      cases hb

/-- A listing begins with the first answer to it. -/
theorem list_served (hfit : scope.IsFit) (hmirrors : Mirrors scope.query respond R)
    (hR : R st s.now s.world) (hanswered : respond st .null = (first, st'))
    (hpage : IsPage first) :
    (what.list scope).Goes s fun added r t =>
      requests added = [⟨.list what scope.query, first⟩] ∧ R st' t.now t.world ∧
        ∃ listing, r = .ok listing ∧ listing.first = what.pageIn scope.project first ∧
          ((nextToken first).isSome = true → what.GoesOn scope listing) := by
  refine (page_served hfit hmirrors hR (.inl rfl) rfl hanswered hpage).bind ?_ ?_
  · rintro added _ t ⟨hrequests, hread, hR⟩
    cases hread
    obtain ⟨listing, hadvance⟩ := Paged.exists_advance (.inr hfit.given)
      fun marker scope => (what.page scope marker : Calls τ σ _)
    obtain ⟨hfirst, hmore⟩ := Paged.of_advance hadvance
    refine Act.Goes.ofExcept ⟨?_, hR, listing, ?_, hfirst, fun hmarker marker => ?_⟩
    · rw [List.append_nil]
      exact hrequests
    · rw [hadvance]
      rfl
    · obtain ⟨hscope, hfetch⟩ := hmore hmarker
      rw [Paged.next, hscope, hfetch]
  · rintro added halt t ⟨-, hread, -⟩
    cases hread

/-- **A walk along a listing** follows the answers to it. -/
theorem fold_served (step : β → ListPage what.Item → Calls τ σ β) (hfit : scope.IsFit)
    (hmirrors : Mirrors scope.query respond R)
    (hserved : Served respond st answers st')
    (hdeals : Deals R (fun b answer => step b (what.pageIn scope.project answer)) between Q answers)
    {limit : Nat} (hlimit : answers.length ≤ limit + 1) {b : β} (hQ : Q [] b)
    (s : Session τ σ Exchange) (hR : R st s.now s.world) :
    (do let listing ← what.list scope; listing.fold limit b step : Calls τ σ β).Goes s
      fun added r t =>
        requests added = what.exchanges scope.query between .null answers ∧
          R st' t.now t.world ∧ ∃ b', r = .ok b' ∧ Q answers b' := by
  obtain ⟨answered, onward⟩ := hserved
  refine (list_served hfit hmirrors hR answered onward.isPage).bind ?_ ?_
  · rintro added listing t ⟨hrequests, hR, _, hlisting, hfirst, hmore⟩
    cases hlisting
    rw [Paged.fold, hfirst]
    refine (foldFrom_onward hfit hmirrors onward (fun hne => hmore ?_) hdeals
      (Nat.le_of_succ_le_succ hlimit) hQ t hR).mono ?_
    · cases onward with
      | ended => exact absurd rfl hne
      | next continued sendable answered onward => rw [continued]; rfl
    · rintro more r u ⟨hlater, hR, b', hb, hQ⟩
      refine ⟨?_, hR, b', hb, hQ⟩
      rw [requests, Event.calls_append]
      rw [requests] at hrequests hlater
      rw [hrequests, hlater]
      rfl
  · rintro added halt t ⟨-, -, listing, hlisting, -⟩
    cases hlisting

/-- How a server answers the requests for the pages of a listing. -/
def serve (what : Listed) (query : ListQuery) (place : τ × σ) (token : Value) :
    what.Answer × τ × σ :=
  Server.respond place.1 place.2 (.list what { query with pageToken := token })

theorem mirrors_serve (what : Listed) (query : ListQuery) :
    Mirrors query (what.serve query) fun place (now : τ) (world : σ) => place = (now, world) := by
  rintro place now world token rfl
  exact ⟨_, _, rfl, rfl⟩

/-- All items of a listing, in order. -/
def all (what : Listed) (limit : Nat) (scope : ListScope) : Calls τ σ (List what.Item) := do
  let listing ← what.list scope
  listing.concat limit

omit [Server τ σ] in
theorem deals_concat (project : Value) (R : S → τ → σ → Prop) (answers : List what.Answer) :
    Deals R (fun sofar answer => (return sofar ++ (what.pageIn project answer).items : Calls τ σ _))
      (fun _ => []) (fun past items => items = what.allIn project past) answers := by
  rintro answer - past items st s rfl hR
  exact Act.Goes.pure ⟨rfl, hR, _, rfl, (allIn_concat project past answer).symm⟩

/-- Having no options is the same as having none set. -/
theorem all_options (what : Listed) (project zone : Value) (limit : Nat) :
    (what.all limit { project, zone } : Calls τ σ _)
      = what.all limit { project, zone, options := some {} } := by
  -- the scope that is kept for later pages differs, but a page of it is asked for alike
  have hpage (marker : Value) : (what.page { project, zone } marker : Calls τ σ _)
      = what.page { project, zone, options := some {} } marker := rfl
  have hrest (first : ListPage what.Item) :
      (do
        let listing ← Act.ofExcept (Paged.advance first { project, zone }
          fun marker scope => what.page scope marker)
        listing.concat limit : Calls τ σ _)
      = (do
        let listing ← Act.ofExcept (Paged.advance first { project, zone, options := some {} }
          fun marker scope => what.page scope marker)
        listing.concat limit) := by
    cases hmarker : first.nextMarker with
    | none => simp only [Paged.advance, hmarker]
    | some marker =>
      cases hproject : project.isNothing with
      | true => simp [Paged.advance, hmarker, hproject]
      | false =>
        simp only [Paged.advance, hmarker, hproject, Bool.false_eq_true, if_false, Act.ofExcept,
          pure_bind]
        refine Paged.foldFrom_congr _ _ (fun marker => ?_) limit first
        rfl
  simp only [all, list, bind_assoc, hpage, hrest]

/-- **A whole listing.**  It asks for its pages one after the other, by the tokens that it is
answered with, up to the first answer without one, and gives their items in order; having no options
is the same as having none set. -/
theorem all_served (what : Listed) (project zone : Value) :
    (∀ (options : Option ListOptions) (answers : List what.Answer) (now : τ) (world : σ)
      (limit : Nat) (s : Session τ σ Exchange), ListScope.IsFit { project, zone, options } →
      Served (what.serve (ListScope.query { project, zone, options })) (s.now, s.world) answers
        (now, world) → answers.length ≤ limit + 1 →
      ∃ t, (what.all limit { project, zone, options }).perform s
          = (.ok (what.allIn project answers), t) ∧
        t.calls = s.calls ++ what.exchanges (ListScope.query { project, zone, options })
          (fun _ => []) .null answers ∧
        t.now = now ∧ t.world = world) ∧
    ∀ limit, (what.all limit { project, zone } : Calls τ σ _)
      = what.all limit { project, zone, options := some {} } := by
  refine ⟨fun options answers now world limit s hfit hserved hlimit => ?_,
    all_options what project zone⟩
  have hwalk := fold_served (fun sofar page => return sofar ++ page.items) hfit
    (mirrors_serve what _) hserved (deals_concat project _ answers) hlimit rfl s rfl
  obtain ⟨added, hadded, hrequests, hplace, _, hitems, rfl⟩ :
    (what.all limit { project, zone, options }).Goes s _ := hwalk
  obtain ⟨hnow, hworld⟩ := Prod.mk.inj hplace
  refine ⟨_, Prod.ext hitems rfl, ?_, hnow.symm, hworld.symm⟩
  rw [Session.calls, hadded, Event.calls_append, ← hrequests]
  rfl

end

/-- The answers to a listing across all zones: a page whose first group is empty, one more page, and
none where the second token leads. -/
def acrossAnswers : List (Answer (.machineTypes true)) :=
  [.ok { items := [("zones/x", []),
           ("zones/y", [{ name := "n1", zone := "zones/y" }, { name := "n2", zone := "zones/y" }])]
         nextPageToken := "t" },
   .ok { items := [("zones/z", [{ name := "n1", zone := "zones/z" }])], nextPageToken := "u" },
   .error Script.noResponse]

/-- A service that gives these answers. -/
def acrossPages : Session Float Script Exchange where
  now := 0.0
  world := acrossAnswers.map fun answer => { endpoint := .list (.machineTypes true), answer }

theorem all_served_acrossPages :
    ∃ t, ((machineTypes true).all 2
        { project := "p", options := some { filter := "f" } }).perform acrossPages
          = (.ok [{ name := "n1", zone := "y" }, { name := "n2", zone := "y" },
              { name := "n1", zone := "z" }], t) ∧
      t.calls.map Exchange.request
        = [.list (.machineTypes true) { project := "p", filter := "f" },
            .list (.machineTypes true) { project := "p", filter := "f", pageToken := "t" },
            .list (.machineTypes true) { project := "p", filter := "f", pageToken := "u" }] := by
  have hfit : ListScope.IsFit { project := "p", options := some { filter := "f" } } :=
    ⟨rfl, .inr ⟨"p", rfl, by decide⟩, .inl rfl, .inr ⟨"f", rfl, by decide⟩, .inl rfl⟩
  have hmissing : IsPage (.error Script.noResponse : Answer (.machineTypes true)) := by
    rintro _ ⟨rfl⟩
    rfl
  have hserved : Served ((machineTypes true).serve { project := "p", filter := "f" })
      (acrossPages.now, acrossPages.world) acrossAnswers (acrossPages.now, []) :=
    .pages rfl (.next rfl (.inr ⟨"t", rfl, by decide⟩) rfl
      (.next rfl (.inr ⟨"u", rfl, by decide⟩) rfl (.ended hmissing rfl)))
  have hitems : allIn (.machineTypes true) "p" acrossAnswers
      = [{ name := "n1", zone := "y" }, { name := "n2", zone := "y" },
          { name := "n1", zone := "z" }] := by
    decide +kernel
  obtain ⟨t, hrun, hcalls, -⟩ := (all_served (.machineTypes true) "p" .null).1
    (some { filter := "f" }) acrossAnswers _ _ 2 acrossPages hfit hserved (by decide)
  rw [hitems] at hrun
  refine ⟨t, hrun, ?_⟩
  rw [hcalls]
  rfl

end Listed

end ComputeNodes

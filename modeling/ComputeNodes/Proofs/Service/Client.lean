/-
What the requests of a client add to a session.

A request is either refused before it is made, which leaves the session as it was, or made once, and
then its answer is whatever the server says (`Request.Asked`).  Everything a client reads is one
request with its answer read in some way (`read_goes`); a listing is one request for every page that
is drawn (`page_goes`), and its first item takes pages of that listing only (`first_goes`).
-/
import ComputeNodes.Proofs.Listing.Paged
import ComputeNodes.Proofs.Run.Act
import ComputeNodes.Service.Client

namespace ComputeNodes

variable {τ σ α β : Type}

/-- The calls of a computation that makes requests, in order. -/
abbrev requests (added : List (Event τ Exchange)) : List Exchange := Event.calls added

theorem Error.isNotFound_unmade (fault : MessageFault) :
    (Error.unmade fault).isNotFound = false := by
  cases fault <;> rfl

section

variable [Server τ σ]

/-- What no request changes about what answers it. -/
def Server.Keeps (τ : Type) {σ : Type} [Server τ σ] (K : σ → Prop) : Prop :=
  ∀ (now : τ) (world : σ) (request : Request),
    K world → K (Server.respond now world request).2.2

theorem Server.Keeps.of_respond {K : σ → Prop} (hK : Server.Keeps τ K) {s t : Session τ σ Exchange}
    {request : Request} {answer : Except Error request.Reply} (hs : K s.world)
    (respond : Server.respond s.now s.world request = (answer, t.now, t.world)) : K t.world := by
  have hworld : (Server.respond s.now s.world request).2.2 = t.world := by rw [respond]
  exact hworld ▸ hK s.now s.world request hs

/-! ### One request -/

/-- What asking for one request comes to in a session, when its answer is read by `read`. -/
inductive Request.Asked (request : Request) (s : Session τ σ Exchange)
    (read : Except Error request.Reply → Except Halt β) :
    List (Event τ Exchange) → Except Halt β → Session τ σ Exchange → Prop
  /-- A request that does not fit its values is not made. -/
  | refused (fault : MessageFault) (unfit : request.check = .error fault) :
    Asked request s read [] (.error (.failed (.unmade fault))) s
  | made (answer : Except Error request.Reply) (t : Session τ σ Exchange)
    (fit : request.check = .ok ())
    (respond : Server.respond s.now s.world request = (answer, t.now, t.world)) :
    Asked request s read [.call ⟨request, answer⟩] (read answer) t

theorem perform_call (request : Request) (s : Session τ σ Exchange) :
    (call request).perform s = match request.check with
      | .error fault => (.error (.failed (.unmade fault)), s)
      | .ok _ =>
        match Server.respond s.now s.world request with
        | (answer, now, world) =>
          (answer.mapError .failed, { s with now, world }.add (.call ⟨request, answer⟩)) := by
  unfold call
  cases hcheck : request.check with
  | error fault => exact Act.perform_bind_error (Act.perform_ofExcept _ s)
  | ok _ =>
    rw [Act.perform_bind_ok (Act.perform_ofExcept _ s), Act.perform_bind_ok (Act.perform_now s),
      Act.perform_bind_ok (Act.perform_world s)]
    rcases Server.respond s.now s.world request with ⟨answer, now, world⟩
    exact Act.perform_ofExcept answer _

theorem call_goes (request : Request) (s : Session τ σ Exchange) :
    (call request).Goes s (request.Asked s (Except.mapError .failed)) := by
  have hperform := perform_call request s
  cases hcheck : request.check with
  | error fault =>
    rw [hcheck] at hperform
    exact Act.Goes.of_perform [] hperform (by simp) (.refused fault hcheck)
  | ok _ =>
    rcases hrespond : Server.respond s.now s.world request with ⟨answer, now, world⟩
    rw [hcheck, hrespond] at hperform
    exact Act.Goes.of_perform _ hperform (Session.events_add _ _) (.made answer _ hcheck hrespond)

/-- Whether a request was made in a session, answered so, and left the session so. -/
structure Request.Made (request : Request) (s : Session τ σ Exchange)
    (answer : Except Error request.Reply) (t : Session τ σ Exchange) : Prop where
  fit : request.check = .ok ()
  respond : Server.respond s.now s.world request = (answer, t.now, t.world)
  events : t.events.toList = s.events.toList ++ [.call ⟨request, answer⟩]

theorem Request.Made.calls {request : Request} {s t : Session τ σ Exchange}
    {answer : Except Error request.Reply} (h : request.Made s answer t) :
    t.calls = s.calls ++ [⟨request, answer⟩] :=
  Session.calls_of_events h.events

namespace Request.Asked

variable {request : Request} {s t : Session τ σ Exchange} {added : List (Event τ Exchange)}
  {read : Except Error request.Reply → Except Halt α} {r : Except Halt α}

/-- What becomes of an answer later does not matter to a request that is refused. -/
theorem map (g : Except Halt α → Except Halt β)
    (hg : ∀ fault, g (.error (.failed (.unmade fault))) = .error (.failed (.unmade fault)))
    (h : request.Asked s read added r t) :
    request.Asked s (fun answer => g (read answer)) added (g r) t := by
  cases h with
  | refused fault unfit => rw [hg]; exact .refused fault unfit
  | made answer t fit respond => exact .made answer t fit respond

/-- A request is made once, if it is made. -/
theorem requests_eq (h : request.Asked s read added r t) :
    (requests added = [] ∧ ∃ fault, r = .error (.failed (.unmade fault))) ∨
      ∃ answer, requests added = [⟨request, answer⟩] ∧ r = read answer := by
  cases h with
  | refused fault unfit => exact .inl ⟨rfl, fault, rfl⟩
  | made answer t fit respond => exact .inr ⟨answer, rfl, rfl⟩

theorem requests_ne_nil {a : α} (h : request.Asked s read added (.ok a) t) :
    requests added ≠ [] := by
  rcases h.requests_eq with ⟨-, fault, hfault⟩ | ⟨answer, hone, -⟩
  · cases hfault
  · rw [hone]
    exact List.cons_ne_nil _ _

theorem fit_of_ok {a : α} (h : request.Asked s read added (.ok a) t) :
    request.check = .ok () := by
  generalize houtcome : Except.ok a = r at h
  cases h with
  | refused fault unfit => cases houtcome
  | made answer t fit respond => exact fit

/-- A request that is asked for is refused, or else it is made. -/
theorem refused_or_made (h : request.Asked s read added r t)
    (hadded : t.events.toList = s.events.toList ++ added) :
    (∃ fault, request.check = .error fault ∧ r = .error (.failed (.unmade fault)) ∧ t = s) ∨
      ∃ answer, request.Made s answer t ∧ r = read answer := by
  cases h with
  | refused fault unfit => exact .inl ⟨fault, unfit, rfl, rfl⟩
  | made answer t fit respond => exact .inr ⟨answer, ⟨fit, respond, hadded⟩, rfl⟩

theorem request_eq (h : request.Asked s read added r t) :
    ∀ e ∈ requests added, e.request = request := by
  rcases h.requests_eq with ⟨hnone, -⟩ | ⟨answer, hone, -⟩
  · simp [hnone]
  · simp [hone]

/-- What holds of the requests so far and of this one holds of all of them. -/
theorem all (h : request.Asked s read added r t) (P : Request → Prop)
    {l : List (Event τ Exchange)} (hl : ∀ e ∈ requests l, P e.request) (hrequest : P request) :
    ∀ e ∈ requests (l ++ added), P e.request := by
  rw [requests, Event.calls_append, List.forall_mem_append]
  exact ⟨hl, fun e he => h.request_eq e he ▸ hrequest⟩

theorem length_le (h : request.Asked s read added r t) : (requests added).length ≤ 1 := by
  rcases h.requests_eq with ⟨hnone, -⟩ | ⟨answer, hone, -⟩
  · simp [hnone]
  · simp [hone]

theorem keeps {K : σ → Prop} (hK : Server.Keeps τ K) (hs : K s.world)
    (h : request.Asked s read added r t) : K t.world := by
  cases h with
  | refused fault unfit => exact hs
  | made answer t fit respond => exact hK.of_respond hs respond

end Request.Asked

theorem found?_goes (request : Request) (s : Session τ σ Exchange) :
    (Act.found? (call request)).Goes s
      (request.Asked s fun answer => Act.foundResult (answer.mapError .failed)) :=
  (call_goes request s).found? fun _ _ _ h =>
    h.map Act.foundResult fun fault => by simp [Act.foundResult, Error.isNotFound_unmade]

/-- How an answer is read of something that need not exist. -/
def readAnswer (f : α → β) : Except Error α → Except Halt (Option β)
  | .ok message => .ok (some (f message))
  | .error error => if error.isNotFound then .ok none else .error (.failed error)

theorem readAnswer_eq (f : α → β) (answer : Except Error α) :
    readAnswer f answer = (Act.foundResult (answer.mapError .failed)).map (Option.map f) := by
  cases answer with
  | ok message => rfl
  | error error =>
    cases herror : error.isNotFound <;>
      simp [readAnswer, Act.foundResult, Except.map, herror]

theorem readAnswer_eq_error {f : α → β} {answer : Except Error α} {halt : Halt}
    (h : readAnswer f answer = .error halt) :
    ∃ error, answer = .error error ∧ error.isNotFound = false ∧ halt = .failed error := by
  cases answer with
  | ok message => cases h
  | error error =>
    cases habsent : error.isNotFound with
    | true => simp [readAnswer, habsent] at h
    | false =>
      rw [readAnswer, habsent] at h
      cases h
      exact ⟨error, rfl, habsent, rfl⟩

/-- **Reading something is one request.** -/
theorem read_goes (request : Request) (f : request.Reply → β) (s : Session τ σ Exchange) :
    (do return (← Act.found? (call request)).map f : Calls τ σ (Option β)).Goes s
      (request.Asked s (readAnswer f)) := by
  rw [show readAnswer f = _ from funext (readAnswer_eq f)]
  exact (found?_goes request s).map fun added r t h =>
    h.map (Except.map (Option.map f)) fun _ => rfl

theorem getInstance_goes (project zone name : Value) (s : Session τ σ Exchange) :
    (getInstance project zone name).Goes s
      ((Request.getInstance project zone name).Asked s (readAnswer InstanceMessage.toInstance)) :=
  read_goes _ _ s

theorem deleteInstance_goes (project zone name : Value) (s : Session τ σ Exchange) :
    (deleteInstance project zone name).Goes s
      ((Request.deleteInstance project zone name).Asked s
        (readAnswer OperationMessage.toOperation)) :=
  read_goes _ _ s

theorem getOperation_goes (project zone name : Value) (s : Session τ σ Exchange) :
    (getOperation project zone name).Goes s
      ((Request.getOperation project zone name).Asked s
        (readAnswer OperationMessage.toOperation)) :=
  read_goes _ _ s

theorem getProject_goes (id : Value) (s : Session τ σ Exchange) :
    (getProject id).Goes s
      ((Request.getProject id).Asked s (readAnswer ProjectMessage.toProject)) :=
  read_goes _ _ s

/-- An insertion is one request, and a log record where it was answered. -/
theorem insertInstance_goes (project zone name : Value) (spec : InstanceSpec)
    (s : Session τ σ Exchange) :
    (insertInstance project zone name spec).Goes s fun added r t =>
      ∃ first u, (Request.insertInstance project zone (.ofSpec name spec)).Asked s
          (fun answer => (answer.mapError .failed).map OperationMessage.toOperation) first r u ∧
        requests added = requests first ∧ t.now = u.now ∧ t.world = u.world := by
  refine (call_goes _ s).bind ?_ ?_
  · intro first message u h
    refine Act.Goes.bind_ok _ (Act.perform_log _ _ _ u) (Session.events_add _ _) ?_
    have hread := h.map (Except.map OperationMessage.toOperation) fun _ => rfl
    exact Act.Goes.pure ⟨first, u, hread, by simp, rfl, rfl⟩
  · intro first halt u h
    have hread := h.map (Except.map OperationMessage.toOperation) fun _ => rfl
    exact ⟨first, u, hread, rfl, rfl, rfl⟩

/-! ### Listings -/

namespace Listed

/-- The page that a message holds. -/
def toPage (what : Listed) (project : Value) (message : PageMessage what.Message) :
    ListPage what.Item where
  items := message.items.flatMap (what.read project)
  nextMarker := message.nextPageToken.something?

/-- How the answer to a request for a page is read. -/
def readPage (what : Listed) (project : Value) (answer : Except Error (PageMessage what.Message)) :
    Except Halt (ListPage what.Item) :=
  (readAnswer (what.toPage project) answer).map (·.getD {})

theorem readPage_eq (what : Listed) (project : Value)
    (answer : Except Error (PageMessage what.Message)) :
    what.readPage project answer
      = (Act.foundResult (answer.mapError .failed)).map
          fun message => (message.map (what.toPage project)).getD {} := by
  rw [readPage, readAnswer_eq]
  cases Act.foundResult (answer.mapError .failed) <;> rfl

/-- **A page is one request.** -/
theorem page_goes (what : Listed) (scope : ListScope) (marker : Value)
    (s : Session τ σ Exchange) :
    (what.page scope marker).Goes s
      ((Request.list what (.ofScope scope marker)).Asked s (what.readPage scope.project)) := by
  have hread : ∀ {added r t}, (Request.list what (.ofScope scope marker)).Asked s
      (fun answer => Act.foundResult (answer.mapError .failed)) added r t →
      (Request.list what (.ofScope scope marker)).Asked s (what.readPage scope.project) added
        (r.map fun message => (message.map (what.toPage scope.project)).getD {}) t := by
    intro added r t h
    rw [show what.readPage scope.project = _ from funext (readPage_eq what scope.project)]
    exact h.map (Except.map _) fun _ => rfl
  refine (found?_goes _ s).bind ?_ (fun _ _ _ h => hread h)
  intro added message t h
  cases message with
  | none => exact Act.Goes.pure (by rw [List.append_nil]; exact hread h)
  | some message => exact Act.Goes.pure (by rw [List.append_nil]; exact hread h)

/-- A listing asks for its first page, and has its scope handed on to the others. -/
theorem list_goes (what : Listed) (scope : ListScope) (s : Session τ σ Exchange) :
    (what.list scope).Goes s
      ((Request.list what (.ofScope scope .null)).Asked s fun answer =>
        (what.readPage scope.project answer).bind fun page =>
          (Paged.advance page scope fun marker scope => what.page scope marker).mapError
            .failed) := by
  refine (page_goes what scope .null s).bind ?_ ?_
  · intro added page t h
    refine Act.Goes.ofExcept ?_
    rw [List.append_nil]
    exact h.map (fun r => r.bind fun page =>
      (Paged.advance page scope fun marker scope => what.page scope marker).mapError .failed)
      fun _ => rfl
  · intro added halt t h
    exact h.map (fun r => r.bind fun page =>
      (Paged.advance page scope fun marker scope => what.page scope marker).mapError .failed)
      fun _ => rfl

theorem advance_of_list {what : Listed} {scope : ListScope} {s t : Session τ σ Exchange}
    {added : List (Event τ Exchange)} {listing : Paged τ σ Exchange what.Item}
    (h : (Request.list what (.ofScope scope .null)).Asked s (fun answer =>
      (what.readPage scope.project answer).bind fun page =>
        (Paged.advance page scope fun marker scope => what.page scope marker).mapError .failed)
      added (.ok listing) t) :
    ∃ page, Paged.advance page scope
      (fun marker scope => (what.page scope marker : Calls τ σ _)) = .ok listing := by
  rcases h.requests_eq with ⟨-, fault, hfault⟩ | ⟨answer, -, hread⟩
  · cases hfault
  · cases hpage : what.readPage scope.project answer with
    | error halt => rw [hpage] at hread; cases hread
    | ok page =>
      rw [hpage] at hread
      exact ⟨page, Act.mapError_failed_eq_ok.mp hread.symm⟩

/-- Some requests for pages of one listing, and what they keep. -/
structure Fetched (K : σ → Prop) (what : Listed) (scope : ListScope)
    (added : List (Event τ Exchange)) (t : Session τ σ Exchange) : Prop where
  keeps : K t.world
  pages : ∀ e ∈ requests added, ∃ marker, e.request = .list what (.ofScope scope marker)

omit [Server τ σ] in
theorem fetched_nil {K : σ → Prop} {what : Listed} {scope : ListScope}
    {s : Session τ σ Exchange} (hs : K s.world) : Fetched K what scope [] s :=
  ⟨hs, by simp⟩

omit [Server τ σ] in
theorem Fetched.log {K : σ → Prop} {what : Listed} {scope : ListScope}
    {l : List (Event τ Exchange)} {t : Session τ σ Exchange} (h : Fetched K what scope l t)
    (entry : Logging.Entry) : Fetched K what scope (l ++ [.log entry]) (t.add (.log entry)) :=
  ⟨h.keeps, by simpa [requests] using h.pages⟩

theorem Fetched.ask {K : σ → Prop} (hK : Server.Keeps τ K) {what : Listed} {scope : ListScope}
    {marker : Value} {l more : List (Event τ Exchange)} {t u : Session τ σ Exchange}
    {read : Except Error (PageMessage what.Message) → Except Halt β} {r : Except Halt β}
    (h : Fetched K what scope l t)
    (hmore : (Request.list what (.ofScope scope marker)).Asked t read more r u) :
    Fetched K what scope (l ++ more) u :=
  ⟨hmore.keeps hK h.keeps,
    hmore.all (fun request => ∃ marker, request = .list what (.ofScope scope marker)) h.pages
      ⟨marker, rfl⟩⟩

/-- The first item of a listing takes pages of that listing only, and at least one. -/
theorem first_goes {K : σ → Prop} (hK : Server.Keeps τ K) {s : Session τ σ Exchange}
    (hs : K s.world) (what : Listed) (scope : ListScope) (limit : Nat) :
    (do let listing ← what.list scope; listing.head? limit : Calls τ σ _).Goes s
      fun added r t => Fetched K what scope added t ∧
        ∀ found, r = .ok found → requests added ≠ [] := by
  refine (list_goes what scope s).bind ?_ ?_
  · intro first listing t h
    obtain ⟨page, hadvance⟩ := advance_of_list h
    have hfirst : Fetched K what scope first t := by simpa using (fetched_nil hs).ask hK h
    have hasked : requests first ≠ [] := h.requests_ne_nil
    have hnext : ∀ l u marker, Fetched K what scope l u →
        (listing.next marker).Goes u fun more _ v => Fetched K what scope (l ++ more) v := by
      intro l u marker hl
      rcases Paged.next_of_advance hadvance marker with hfail | hfetch
      · rw [hfail]
        exact Act.Goes.fail (by rwa [List.append_nil])
      · rw [hfetch]
        refine Act.Goes.bind_ok _ (Act.perform_log _ _ _ u) (Session.events_add _ _) ?_
        refine (page_goes what scope marker _).mono fun more r v hv => ?_
        simpa using (hl.log _).ask hK hv
    refine (Paged.head?_goes hnext limit first t hfirst).mono fun more r u hu => ?_
    exact ⟨hu, fun _ _ => by simp [hasked]⟩
  · intro first halt t h
    exact ⟨by simpa using (fetched_nil hs).ask hK h, fun _ hfound => by cases hfound⟩

end Listed

/-! ### Machine types -/

/-- What a listing of the machine types of a name is asked for, across all zones. -/
def machineTypeScope (project zone name : Value) : ListScope where
  project := project
  zone := zone
  options := some { filter := .text ("name = " ++ name.plain) }

/-- The requests by which a machine type is looked up. -/
inductive MachineTypeLookup (project zone name : Value) : Request → Prop
  | inZone (given : zone.isNothing = false) :
    MachineTypeLookup project zone name (.getMachineType project zone name)
  | acrossZones (absent : zone.isNothing = true) (marker : Value) :
    MachineTypeLookup project zone name
      (.list (.machineTypes true) (.ofScope (machineTypeScope project zone name) marker))

/-- What a lookup of a machine type asks for, and that it does ask when it comes to an answer. -/
theorem getMachineType_goes {K : σ → Prop} (hK : Server.Keeps τ K) {s : Session τ σ Exchange}
    (hs : K s.world) (limit : Nat) (project zone name : Value) :
    (getMachineType limit project zone name).Goes s fun added r t => K t.world ∧
      (∀ e ∈ requests added, MachineTypeLookup project zone name e.request) ∧
      (zone.isNothing = false → (requests added).length ≤ 1) ∧
      ∀ found, r = .ok found → requests added ≠ [] := by
  unfold getMachineType
  cases hzone : zone.isNothing with
  | false =>
    refine (read_goes (.getMachineType project zone name) _ s).mono fun added r t h => ?_
    refine ⟨h.keeps hK hs, fun e he => ?_, fun _ => h.length_le, fun found hfound => ?_⟩
    · rw [h.request_eq e he]
      exact .inZone hzone
    · rw [hfound] at h
      exact h.requests_ne_nil
  | true =>
    have hfirst := Listed.first_goes hK hs (.machineTypes true)
      (machineTypeScope project zone name) limit
    refine hfirst.mono fun added r t ⟨hfetched, hasked⟩ => ?_
    refine ⟨hfetched.keeps, ?_, by simp, hasked⟩
    intro e he
    obtain ⟨marker, hmarker⟩ := hfetched.pages e he
    rw [hmarker]
    exact .acrossZones hzone marker

end

end ComputeNodes

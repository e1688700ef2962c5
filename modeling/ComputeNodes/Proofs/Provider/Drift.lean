/-
Nodes whose records drift while they are listed.

Whatever answers, the nodes that a listing comes to are the instances it was told of, in the order
in which it was told, each record once (`listNodes_kept`).  What tells records apart is all that is
in them.  So an instance that is met twice counts once only if nothing about it has changed in
between: the nodes are told apart by their zones and names exactly when no two records of one zone
and name differ (`listNodes_samePlace_iff`).
-/
import ComputeNodes.Proofs.Provider.Nodes
import ComputeNodes.Proofs.Service.Account
import Mathlib.Data.List.Pairwise

namespace ComputeNodes

/-- The instances that an exchange tells of. -/
def Exchange.instances : Exchange → List Instance
  | ⟨.list .instances query, answer⟩ => Listed.instances.itemsIn query.project answer
  | _ => []

/-- The instances that some exchanges tell of, in order. -/
def Exchange.allInstances (exchanges : List Exchange) : List Instance :=
  exchanges.flatMap Exchange.instances

theorem Exchange.allInstances_append (exchanges more : List Exchange) :
    allInstances (exchanges ++ more) = allInstances exchanges ++ allInstances more :=
  List.flatMap_append

/-- Whether two instances have the same zone and name. -/
def Instance.SamePlace (i j : Instance) : Prop := i.zone = j.zone ∧ i.name = j.name

variable {τ σ β : Type} [Server τ σ]

/-! ### Listings that anything may answer -/

namespace Listed

variable {what : Listed} {scope : ListScope}

theorem eq_pageIn_of_readPage {project : Value} {answer : what.Answer} {page : ListPage what.Item}
    (h : what.readPage project answer = .ok page) : page = what.pageIn project answer := by
  have hpage : IsPage answer := by
    rintro error rfl
    cases herror : error.isNotFound with
    | true => rfl
    | false => simp [readPage, readAnswer, herror, Except.map] at h
  rw [readPage_of_isPage hpage] at h
  exact (Except.ok.inj h).symm

/-- Whether the last one of some exchanges holds a page of a listing, and `inv` holds of those
before. -/
def Pending (what : Listed) (scope : ListScope) (inv : List Exchange → β → Prop)
    (asked : List Exchange) (b : β) (page : ListPage what.Item) : Prop :=
  ∃ before marker answer, inv before b ∧ page = what.pageIn scope.project answer ∧
    asked = before ++ [⟨.list what (.ofScope scope marker), answer⟩]

/-- What holds of what was asked for before a page holds with that page pending. -/
theorem page_pending {inv : List Exchange → β → Prop} {asked : List Exchange} {b : β}
    (h : inv asked b) (marker : Value) (s : Session τ σ Exchange) :
    (what.page scope marker).Goes s fun more r _ =>
      ∀ page, r = .ok page → Pending what scope inv (asked ++ requests more) b page := by
  refine (page_goes what scope marker s).mono fun more r t hasked page hpage => ?_
  rcases hasked.requests_eq with ⟨-, fault, hfault⟩ | ⟨answer, hone, hread⟩
  · cases hfault.symm.trans hpage
  · refine ⟨asked, marker, answer, h, eq_pageIn_of_readPage (hread.symm.trans hpage), ?_⟩
    rw [hone]

/-- The first page of a listing is pending when it is given, and the others are when they are
fetched. -/
theorem list_pending {inv : List Exchange → β → Prop} {asked : List Exchange} {b : β}
    (h : inv asked b) (s : Session τ σ Exchange) :
    (what.list scope).Goes s fun more r _ => ∀ listing, r = .ok listing →
      Pending what scope inv (asked ++ requests more) b listing.first ∧
        ∀ {asked b} (marker : Value) (t : Session τ σ Exchange), inv asked b →
          (listing.next marker).Goes t fun more r _ =>
            ∀ page, r = .ok page → Pending what scope inv (asked ++ requests more) b page := by
  refine (page_pending h .null s).bind ?_ fun _ _ _ _ => nofun
  intro more page t hpage
  refine Act.Goes.ofExcept fun listing hlisting => ?_
  have hadvance := Act.mapError_failed_eq_ok.mp hlisting
  rw [List.append_nil, (Paged.of_advance hadvance).1]
  refine ⟨hpage page rfl, fun {asked b} marker u hinv => ?_⟩
  rcases Paged.next_of_advance hadvance marker with hfail | hfetch
  · rw [hfail]
    exact Act.Goes.fail nofun
  · rw [hfetch]
    refine Act.Goes.bind_ok _ (Act.perform_log _ _ _ u) (Session.events_add _ _) ?_
    exact page_pending hinv marker _

/-- **A walk along a listing**, by what holds of everything that was asked for in front of a page
and behind it. -/
theorem fold_goes {inv : List Exchange → β → Prop} {step : β → ListPage what.Item → Calls τ σ β}
    (hstep : ∀ asked b page (s : Session τ σ Exchange), Pending what scope inv asked b page →
      (step b page).Goes s fun more r _ => ∀ b', r = .ok b' → inv (asked ++ requests more) b')
    {asked : List Exchange} {b : β} (h : inv asked b) (limit : Nat) (s : Session τ σ Exchange) :
    (do let listing ← what.list scope; listing.fold limit b step : Calls τ σ β).Goes s
      fun more r _ => ∀ b', r = .ok b' → inv (asked ++ requests more) b' := by
  refine (list_pending h s).bind ?_ fun _ _ _ _ => nofun
  intro first listing t hlisting
  obtain ⟨hfirst, hnext⟩ := hlisting listing rfl
  have hassoc (l more : List (Event τ Exchange)) :
      asked ++ requests (l ++ more) = asked ++ requests l ++ requests more := by
    rw [requests, Event.calls_append, List.append_assoc]
  -- between pages `inv` holds, and in front of a page it holds of what was asked for before it
  refine Paged.foldFrom_goes step b
    (fun l b page _ => Pending what scope inv (asked ++ requests l) b page)
    (fun l b _ => inv (asked ++ requests l) b) (fun l b page t hpending => ?_)
    (fun l b marker t hinv => ?_) limit hfirst
  · refine (hstep _ b page t hpending).mono fun more r u hu b' hb' => ?_
    rw [hassoc]
    exact hu b' hb'
  · refine (hnext marker t hinv).mono fun more r u hu page hpage => ?_
    rw [hassoc]
    exact hu page hpage

end Listed

omit [Server τ σ] in
theorem foldlM_goes {α : Type} {inv : List Exchange → β → Prop} {step : β → α → Calls τ σ β}
    (hstep : ∀ asked b a (s : Session τ σ Exchange), inv asked b →
      (step b a).Goes s fun more r _ => ∀ b', r = .ok b' → inv (asked ++ requests more) b')
    (l : List α) {asked : List Exchange} {b : β} (h : inv asked b) (s : Session τ σ Exchange) :
    (l.foldlM step b).Goes s
      fun more r _ => ∀ b', r = .ok b' → inv (asked ++ requests more) b' := by
  induction l generalizing asked b s with
  | nil =>
    refine Act.Goes.pure fun b' hb' => ?_
    cases hb'
    rwa [requests, Event.calls_nil, List.append_nil]
  | cons a l ih =>
    rw [List.foldlM_cons]
    refine (hstep asked b a s h).bind ?_ (fun _ _ _ _ _ hb => by cases hb)
    intro more b t hb
    refine (ih (hb b rfl) t).mono fun later r u hu b' hb' => ?_
    rw [requests, Event.calls_append, ← List.append_assoc]
    exact hu b' hb'

namespace Provider

/-- Whether some instances are those that exchanges tell of, each record once. -/
def Keeps (asked : List Exchange) (nodes : List Instance) : Prop :=
  Keyed.addAll [] (Exchange.allInstances asked) = .ok nodes

theorem Keeps.skip {asked more : List Exchange} {nodes : List Instance} (h : Keeps asked nodes)
    (hmore : Exchange.allInstances more = []) : Keeps (asked ++ more) nodes := by
  rw [Keeps, Exchange.allInstances_append, hmore, List.append_nil]
  exact h

variable (p : Provider)

theorem addZone_goes (project : Value) {asked : List Exchange} {nodes : List Instance}
    (h : Keeps asked nodes) (zone : Zone) (s : Session τ (Account σ) Exchange) :
    (p.addZone project nodes zone).Goes s fun more r _ =>
      ∀ nodes', r = .ok nodes' → Keeps (asked ++ requests more) nodes' := by
  refine Listed.fold_goes ?_ h p.patience.limit s
  rintro _ nodes _ s ⟨before, marker, answer, hbefore, rfl, rfl⟩
  refine Act.Goes.ofExcept fun nodes' hnodes' => ?_
  have hpage : Exchange.allInstances
      [⟨.list .instances (.ofScope { project, zone := zone.name } marker), answer⟩]
        = (Listed.instances.pageIn project answer).items := List.flatMap_singleton _ _
  rw [Keeps, requests, Event.calls_nil, List.append_nil, Exchange.allInstances_append, hpage,
    Keyed.addAll_append, hbefore]
  exact Act.mapError_failed_eq_ok.mp hnodes'

/-- A page of zones tells of no instances, and those of its zones are kept with the others. -/
theorem addZones_goes (project : Value) {asked : List Exchange} {nodes : List Instance}
    (page : ListPage Zone) (h : Listed.Pending .zones { project } Keeps asked nodes page)
    (s : Session τ (Account σ) Exchange) :
    (p.addZones project nodes page).Goes s fun more r _ =>
      ∀ nodes', r = .ok nodes' → Keeps (asked ++ requests more) nodes' := by
  obtain ⟨before, marker, answer, hbefore, -, rfl⟩ := h
  have hpage : Exchange.allInstances
      [⟨.list .zones (.ofScope { project } marker), answer⟩] = [] := rfl
  have hstep (asked : List Exchange) (nodes : List Instance) (zone : Zone)
      (s : Session τ (Account σ) Exchange) (h : Keeps asked nodes) :=
    p.addZone_goes project h zone s
  exact foldlM_goes hstep page.items (hbefore.skip hpage) s

/-- **Whatever answers, the nodes are the instances that were told of**, each record once. -/
theorem listNodes_kept (s : Session τ (Account σ) Exchange) :
    (p.listNodes : Work τ σ (List Instance)).Goes s fun more r _ =>
      ∀ nodes, r = .ok nodes → Keeps (requests more) nodes := by
  rw [listNodes_eq]
  refine (Account.projectName_goes p.identity s).bind ?_ fun _ _ _ _ => nofun
  rintro first project t ⟨-, hfirst, -⟩
  have hnothing : Exchange.allInstances (requests first) = [] := by
    refine List.flatMap_eq_nil_iff.mpr fun ⟨request, answer⟩ he => ?_
    obtain rfl : request = .getProject (projectId p.identity) := hfirst _ he
    rfl
  have hkeeps : Keeps (requests first) [] := by
    rw [Keeps, hnothing]
    rfl
  have hstep (asked : List Exchange) (nodes : List Instance) (page : ListPage Zone)
      (s : Session τ (Account σ) Exchange)
      (h : Listed.Pending .zones { project } Keeps asked nodes page) :=
    p.addZones_goes project page h s
  refine (Listed.fold_goes hstep hkeeps p.patience.limit t).mono fun more r u hu nodes hnodes => ?_
  rw [requests, Event.calls_append]
  exact hu nodes hnodes

/-- **Nodes are told apart by their zones and names** exactly when no two of the records that were
told of are of one zone and name and differ in anything else. -/
theorem listNodes_samePlace_iff {s t : Session τ (Account σ) Exchange} {nodes : List Instance}
    (hrun : p.listNodes.perform s = (.ok nodes, t)) :
    ∃ asked, t.calls = s.calls ++ asked ∧
      ((∀ i ∈ Exchange.allInstances asked, Keyed.IsTexts i) →
        (nodes.Pairwise (fun i j => ¬ i.SamePlace j) ↔
          ∀ i ∈ Exchange.allInstances asked, ∀ j ∈ Exchange.allInstances asked,
            i.SamePlace j → i = j)) := by
  obtain ⟨added, hadded, hkept⟩ := p.listNodes_kept s
  rw [hrun] at hadded hkept
  refine ⟨requests added, ?_, fun htexts => ?_⟩
  · rw [Session.calls, hadded, Event.calls_append]
    rfl
  · have hnone : ∀ i ∈ ([] : List Instance), Keyed.IsTexts i := by simp
    obtain ⟨kept, hadd, hnodup, hmem⟩ := Keyed.addAll_texts hnone List.nodup_nil htexts
    obtain rfl := Except.ok.inj ((hkept nodes rfl).symm.trans hadd)
    have hmem (i : Instance) : i ∈ nodes ↔ i ∈ Exchange.allInstances (requests added) := by
      simp [hmem]
    constructor
    · intro hapart i hi j hj hplace
      have hsymm : Std.Symm fun i j : Instance => ¬ i.SamePlace j :=
        ⟨fun i j h hback => h ⟨hback.1.symm, hback.2.symm⟩⟩
      by_contra hne
      exact hapart.forall ((hmem i).mpr hi) ((hmem j).mpr hj) hne hplace
    · intro hsteady
      refine hnodup.imp_of_mem fun {i j} hi hj hne hplace => ?_
      exact hne (hsteady i ((hmem i).mp hi) j ((hmem j).mp hj) hplace)

/-- A service of one zone that tells of a node while it is created, and again when it runs. -/
def driftingService : Session Float (Account Script) Exchange where
  now := 0.0
  world := {
    project := ⟨some "p"⟩
    server := [
      { endpoint := .list .zones, answer := .ok { items := [{ name := "z" }] } },
      { endpoint := .list .instances,
        answer := .ok {
          items := [{ name := "a", zone := "z", status := "STAGING" }]
          nextPageToken := "t" } },
      { endpoint := .list .instances,
        answer := .ok { items := [{ name := "a", zone := "z", status := "RUNNING" }] } }] }

/-- A provider for that caller. -/
def driftingProvider : Provider where
  identity := "p"
  patience := { timeout := .whole 4, interval := .whole 2, limit := 2 }

/-- The node of the drifting service, with a status. -/
def driftingNode (status : String) : Instance :=
  { name := "a", zone := "z", status, id := "0" }

theorem driftingService_nodes : (driftingProvider.listNodes.perform driftingService).1
    = .ok [driftingNode "STAGING", driftingNode "RUNNING"] :=
  Act.eq_ok_of_toOption (by decide +kernel)

/-- A node whose status has changed between two pages is listed twice. -/
theorem listNodes_driftingService :
    ∃ t, driftingProvider.listNodes.perform driftingService
        = (.ok [driftingNode "STAGING", driftingNode "RUNNING"], t) ∧
      (driftingNode "STAGING").SamePlace (driftingNode "RUNNING") ∧
      driftingNode "STAGING" ≠ driftingNode "RUNNING" := by
  exact ⟨_, Prod.ext driftingService_nodes rfl, ⟨rfl, rfl⟩, by decide⟩

theorem listNodes_samePlace_iff_driftingService :
    ∃ asked, Exchange.allInstances asked = [driftingNode "STAGING", driftingNode "RUNNING"] ∧
      ([driftingNode "STAGING", driftingNode "RUNNING"].Pairwise (fun i j => ¬ i.SamePlace j) ↔
        ∀ i ∈ Exchange.allInstances asked, ∀ j ∈ Exchange.allInstances asked,
          i.SamePlace j → i = j) := by
  have htold : Exchange.allInstances (driftingProvider.listNodes.perform driftingService).2.calls
      = [driftingNode "STAGING", driftingNode "RUNNING"] := by decide +kernel
  have htexts (status : String) : Keyed.IsTexts (driftingNode status) := by
    have hvalues : Keyed.values (driftingNode status)
        = ["a", "z", status, "0", "", ""].map .text := rfl
    exact Keyed.isTexts_of_map hvalues
  obtain ⟨asked, hcalls, hiff⟩ := listNodes_samePlace_iff driftingProvider
    (s := driftingService) (Prod.ext driftingService_nodes rfl)
  have hasked : asked = (driftingProvider.listNodes.perform driftingService).2.calls := hcalls.symm
  rw [← hasked] at htold
  refine ⟨asked, htold, hiff ?_⟩
  rw [htold]
  simpa using ⟨htexts "STAGING", htexts "RUNNING"⟩

end Provider

end ComputeNodes

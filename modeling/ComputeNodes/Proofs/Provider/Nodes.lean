/-
What listing the nodes of a project comes to.

The zones are walked page by page, and the instances of every zone of a page are walked before the
next page of zones is asked for.  Both are served by one service, whose answers to one of the walks
do not change for all that is asked in the other one, so each walk comes by the pages that it would
come by on its own (`addDistinct_served`, `listNodes_served`).
-/
import ComputeNodes.Proofs.Resource.Distinct
import ComputeNodes.Proofs.Service.Pages
import ComputeNodes.Provider.Nodes

namespace ComputeNodes

variable {τ σ : Type} [Server τ σ]

/-! ### Services that do not change -/

/-- A service that gives the same answer to the same request for a page. -/
abbrev PageService : Type := (what : Listed) → ListQuery → what.Answer

/-- How a service answers the requests for the pages of a listing. -/
def PageService.serve (service : PageService) (what : Listed) (query : ListQuery) (_ : Unit)
    (token : Value) : what.Answer × Unit :=
  (service what { query with pageToken := token }, ())

/-- Whether a server answers the requests for pages as a service does, and goes on to do so. -/
def Server.Gives (τ : Type) {σ : Type} [Server τ σ] (K : σ → Prop) (service : PageService) : Prop :=
  ∀ (now : τ) (world : σ) (what : Listed) (query : ListQuery), K world →
    ∃ now' world',
      Server.respond now world (.list what query) = (service what query, now', world') ∧ K world'

theorem Server.Gives.mirrors {K : σ → Prop} {service : PageService}
    (h : Server.Gives τ K service) (what : Listed) (query : ListQuery) :
    Listed.Mirrors query (service.serve what query)
      fun _ (_ : τ) (account : Account σ) => K account.server := by
  intro _ now account token hK
  obtain ⟨now', server, hrespond, hK'⟩ :=
    h now account.server what { query with pageToken := token } hK
  refine ⟨now', { account with server }, ?_, hK'⟩
  have haccount : Server.respond now account (.list what { query with pageToken := token })
      = match Server.respond now account.server
          (.list what { query with pageToken := token }) with
        | (answer, now, server) => (answer, now, { account with server }) := rfl
  rw [haccount, hrespond]
  rfl

/-- A server that has nothing but fixed pages. -/
structure FixedPages where
  pages : PageService

instance : Server τ FixedPages where
  respond now world
    | .list what query => (world.pages what query, now, world)
    | _ => (.error Script.noResponse, now, world)

omit [Server τ σ] in
theorem FixedPages.gives (service : PageService) :
    Server.Gives τ (fun world : FixedPages => world.pages = service) service := by
  rintro now world what query rfl
  exact ⟨now, world, rfl, rfl⟩

/-! ### The nodes of a project -/

/-- Whether a service serves the listing of the zones of a project, and the listing of the instances
of every zone among them by its name, with certain answers. -/
structure PageService.ServesNodes (service : PageService) (project : Value)
    (zoneAnswers : List (Listed.Answer .zones))
    (instanceAnswers : Value → List (Listed.Answer .instances)) : Prop where
  /-- The zones of the project can be asked for. -/
  fit : ListScope.IsFit { project }
  /-- The answers about the zones are all there are. -/
  zones : Listed.Served (service.serve .zones { project }) () zoneAnswers ()
  /-- The instances of a zone can be asked for by its name. -/
  zoneFit : ∀ zone ∈ Listed.zones.allIn project zoneAnswers,
    ListScope.IsFit { project, zone := zone.name }
  /-- The answers about the instances of a zone are all there are. -/
  instances : ∀ zone ∈ Listed.zones.allIn project zoneAnswers,
    Listed.Served (service.serve .instances { project, zone := zone.name.orNull }) ()
      (instanceAnswers zone.name) ()
  /-- The service tells of instances by texts. -/
  texts : ∀ zone ∈ Listed.zones.allIn project zoneAnswers,
    ∀ i ∈ Listed.instances.allIn project (instanceAnswers zone.name), Keyed.IsTexts i

namespace Provider

/-- Adds the instances of a zone to others. -/
def addZone (p : Provider) (project : Value) (nodes : List Instance) (zone : Zone) :
    Work τ σ (List Instance) :=
  p.addDistinct .instances nodes { project, zone := zone.name }

/-- Adds the instances of all zones of a page to others. -/
def addZones (p : Provider) (project : Value) (nodes : List Instance) (page : ListPage Zone) :
    Work τ σ (List Instance) :=
  page.items.foldlM (p.addZone project) nodes

theorem listNodes_eq (p : Provider) : (p.listNodes : Work τ σ (List Instance)) = (do
    let project ← p.project
    let zones ← Listed.zones.list { project }
    zones.fold p.patience.limit [] (p.addZones project)) := rfl

variable {p : Provider} {K : σ → Prop} {service : PageService} {project : Value}
  {s : Session τ (Account σ) Exchange}

/-- The items of a listing are added page by page. -/
theorem addDistinct_served (hgives : Server.Gives τ K service) {what : Listed} [Keyed what.Item]
    {scope : ListScope} (hfit : scope.IsFit) {answers : List what.Answer}
    (hserved : Listed.Served (service.serve what scope.query) () answers ())
    (hlimit : answers.length ≤ p.patience.limit + 1)
    (htexts : ∀ item ∈ what.allIn scope.project answers, Keyed.IsTexts item)
    (others : List what.Item) (hK : K s.world.server) :
    (p.addDistinct what others scope).Goes s fun added r t =>
      requests added = what.exchanges scope.query (fun _ => []) .null answers ∧
        K t.world.server ∧ ∃ kept, r = .ok kept ∧
          Keyed.addAll others (what.allIn scope.project answers) = .ok kept := by
  have hdeals : Deals (fun (_ : Unit) (_ : τ) (account : Account σ) => K account.server)
      (fun kept answer => Act.ofExcept (Keyed.addAll kept (what.pageIn scope.project answer).items))
      (fun _ => [])
      (fun past kept => Keyed.addAll others (what.allIn scope.project past) = .ok kept)
      answers := by
    intro answer hanswer past kept _ s hkept hK
    have hitems : ∀ item ∈ (what.pageIn scope.project answer).items, Keyed.IsTexts item :=
      fun item hitem => htexts item (List.mem_flatMap.mpr ⟨answer, hanswer, hitem⟩)
    obtain ⟨kept', hadd⟩ := Keyed.exists_addAll kept hitems
    have hsofar : Keyed.addAll others (what.allIn scope.project (past ++ [answer]))
        = .ok kept' := by
      rw [Listed.allIn_concat, Keyed.addAll_append, hkept]
      exact hadd
    exact Act.Goes.ofExcept ⟨rfl, hK, kept', by rw [hadd]; rfl, hsofar⟩
  exact Listed.fold_served (fun kept page => Act.ofExcept (Keyed.addAll kept page.items)) hfit
    (hgives.mirrors what scope.query) hserved hdeals hlimit rfl s hK

section

variable {zoneAnswers : List (Listed.Answer .zones)}
  {instanceAnswers : Value → List (Listed.Answer .instances)}

/-- The instances of some zones, in order. -/
def instancesOf (project : Value) (instanceAnswers : Value → List (Listed.Answer .instances))
    (zones : List Zone) : List Instance :=
  zones.flatMap fun zone => Listed.instances.allIn project (instanceAnswers zone.name)

theorem instancesOf_concat (zones : List Zone) (last : Zone) :
    instancesOf project instanceAnswers (zones ++ [last])
      = instancesOf project instanceAnswers zones
        ++ Listed.instances.allIn project (instanceAnswers last.name) := by
  rw [instancesOf, List.flatMap_append, List.flatMap_singleton, instancesOf]

/-- What the instances of a zone are asked for with, and the answers. -/
def zoneExchanges (project : Value) (instanceAnswers : Value → List (Listed.Answer .instances))
    (zone : Zone) : List Exchange :=
  Listed.instances.exchanges { project, zone := zone.name.orNull } (fun _ => []) .null
    (instanceAnswers zone.name)

/-- The instances of every zone are added, while the listing of the zones stays where it is. -/
theorem zone_deals (hgives : Server.Gives τ K service)
    (hserves : service.ServesNodes project zoneAnswers instanceAnswers)
    (hinstances : ∀ zone ∈ Listed.zones.allIn project zoneAnswers,
      (instanceAnswers zone.name).length ≤ p.patience.limit + 1) {zones : List Zone}
    (hzones : ∀ zone ∈ zones, zone ∈ Listed.zones.allIn project zoneAnswers) :
    Deals (fun (_ : Unit) (_ : τ) (account : Account σ) => K account.server)
      (p.addZone project) (zoneExchanges project instanceAnswers)
      (fun past nodes => Keyed.addAll [] (instancesOf project instanceAnswers past) = .ok nodes)
      zones := by
  intro zone hzone past nodes _ s hnodes hK
  have hthere := hzones zone hzone
  refine (addDistinct_served hgives (hserves.zoneFit zone hthere) (hserves.instances zone hthere)
    (hinstances zone hthere) (hserves.texts zone hthere) nodes hK).mono ?_
  rintro added r t ⟨hrequests, hK, kept, hr, hkept⟩
  have hsofar : Keyed.addAll [] (instancesOf project instanceAnswers (past ++ [zone]))
      = .ok kept := by
    rw [instancesOf_concat, Keyed.addAll_append, hnodes]
    exact hkept
  exact ⟨hrequests, hK, kept, hr, hsofar⟩

/-- So are those of the zones of every page. -/
theorem zonePage_deals (hgives : Server.Gives τ K service)
    (hserves : service.ServesNodes project zoneAnswers instanceAnswers)
    (hinstances : ∀ zone ∈ Listed.zones.allIn project zoneAnswers,
      (instanceAnswers zone.name).length ≤ p.patience.limit + 1) :
    Deals (fun (_ : Unit) (_ : τ) (account : Account σ) => K account.server)
      (fun nodes answer => p.addZones project nodes (Listed.zones.pageIn project answer))
      (fun answer => (Listed.zones.itemsIn project answer).flatMap
        (zoneExchanges project instanceAnswers))
      (fun past nodes => Keyed.addAll []
        (instancesOf project instanceAnswers (Listed.zones.allIn project past)) = .ok nodes)
      zoneAnswers := by
  intro answer hanswer past nodes st s hnodes hK
  have hzones : ∀ zone ∈ Listed.zones.itemsIn project answer,
      zone ∈ Listed.zones.allIn project zoneAnswers :=
    fun zone hzone => List.mem_flatMap.mpr ⟨answer, hanswer, hzone⟩
  have hdeals := zone_deals hgives hserves hinstances hzones
  refine (hdeals.foldlM hnodes st hK).mono ?_
  rintro added r t ⟨hrequests, hK, nodes', hr, hnodes'⟩
  rw [← Listed.allIn_concat] at hnodes'
  exact ⟨hrequests, hK, nodes', hr, hnodes'⟩

/-- **All nodes.**  Whatever the answers of a service are cut into, the nodes of a project are the
instances of its zones, each one once.  The instances of every zone are asked for by its name, and
those of all zones of a page before the next page of zones is. -/
theorem listNodes_served (p : Provider) (hgives : Server.Gives τ K service)
    {s s' : Session τ (Account σ) Exchange} (hproject : p.project.perform s = (.ok project, s'))
    (hK : K s'.world.server) (hserves : service.ServesNodes project zoneAnswers instanceAnswers)
    (hzones : zoneAnswers.length ≤ p.patience.limit + 1)
    (hinstances : ∀ zone ∈ Listed.zones.allIn project zoneAnswers,
      (instanceAnswers zone.name).length ≤ p.patience.limit + 1) :
    ∃ nodes t, p.listNodes.perform s = (.ok nodes, t) ∧ nodes.Nodup ∧
      (∀ i, i ∈ nodes ↔ ∃ zone ∈ Listed.zones.allIn project zoneAnswers,
        i ∈ Listed.instances.allIn project (instanceAnswers zone.name)) ∧
      t.calls = s'.calls ++ Listed.zones.exchanges { project }
        (fun answer => (Listed.zones.itemsIn project answer).flatMap
          (zoneExchanges project instanceAnswers)) .null zoneAnswers := by
  have hdeals := zonePage_deals hgives hserves hinstances
  have hnothing : Keyed.addAll [] (instancesOf project instanceAnswers
      (Listed.zones.allIn project [])) = .ok [] := rfl
  have hwalk := Listed.fold_served (p.addZones project) hserves.fit (hgives.mirrors .zones _)
    hserves.zones hdeals hzones hnothing s' hK
  obtain ⟨added, hadded, hrequests, -, nodes, hr, hnodes⟩ := hwalk
  have htexts : ∀ i ∈ instancesOf project instanceAnswers (Listed.zones.allIn project zoneAnswers),
      Keyed.IsTexts i := by
    intro i hi
    obtain ⟨zone, hzone, hi⟩ := List.mem_flatMap.mp hi
    exact hserves.texts zone hzone i hi
  have hnone : ∀ i ∈ ([] : List Instance), Keyed.IsTexts i := nofun
  -- the walk tells by what steps the nodes come about; what is in them is told by those steps alone
  obtain ⟨kept, hkept, hnodup, hmem⟩ := Keyed.addAll_texts hnone List.nodup_nil htexts
  obtain rfl := Except.ok.inj (hnodes.symm.trans hkept)
  rw [listNodes_eq, Act.perform_bind_ok hproject]
  refine ⟨nodes, _, Prod.ext hr rfl, hnodup, fun i => ?_, ?_⟩
  · rw [hmem, instancesOf, List.mem_flatMap]
    simp
  · rw [Session.calls, hadded, Event.calls_append]
    exact congrArg (s'.calls ++ ·) hrequests

end

/-- The pages of two zones, of which the second one is on a page of its own and does not know of any
instances.  Between the instances of the first one there is an empty page. -/
def twoZones : PageService
  | .zones, query =>
    if query.pageToken = .null then .ok { items := [{ name := "y" }], nextPageToken := "t" }
    else .ok { items := [{ name := "z" }] }
  | .instances, query =>
    if query.zone = "z" then .error Script.noResponse
    else if query.pageToken = .null then
      .ok { items := [{ name := "a", zone := "y" }], nextPageToken := "u" }
    else if query.pageToken = "u" then .ok { nextPageToken := "v" }
    else .ok { items := [{ name := "b", zone := "y" }] }
  | _, _ => .error Script.noResponse

/-- The answers that list the two zones. -/
def twoZoneAnswers : List (Listed.Answer .zones) :=
  [twoZones .zones { project := "p" }, twoZones .zones { project := "p", pageToken := "t" }]

/-- The answers that list the instances of one of the two zones. -/
def twoZoneInstances (zone : Value) : List (Listed.Answer .instances) :=
  if zone = "z" then [twoZones .instances { project := "p", zone }]
  else
    [twoZones .instances { project := "p", zone },
      twoZones .instances { project := "p", zone, pageToken := "u" },
      twoZones .instances { project := "p", zone, pageToken := "v" }]

/-- A caller of a service of two zones, in whose own project they are. -/
def twoZoneSession : Session Float (Account FixedPages) Exchange where
  now := 0.0
  world := { server := ⟨twoZones⟩, project := ⟨some "p"⟩ }

/-- A provider for that caller. -/
def twoZoneProvider : Provider where
  identity := "p"
  patience := { timeout := .whole 4, interval := .whole 2, limit := 2 }

theorem twoZones_serves : twoZones.ServesNodes "p" twoZoneAnswers twoZoneInstances := by
  have hsendable (s : String) (h : Text.halves? s.toList = none) : Value.IsSendable s :=
    .inr ⟨s, rfl, h⟩
  have hzones : Listed.zones.allIn "p" twoZoneAnswers
      = [{ name := "y", region := "" }, { name := "z", region := "" }] := rfl
  have hmissing : Listed.IsPage (.error Script.noResponse : Listed.Answer .instances) := by
    rintro _ ⟨rfl⟩
    rfl
  refine ⟨?_, ?_, ?_, ?_, ?_⟩
  · exact ⟨rfl, hsendable "p" (by decide), .inl rfl, .inl rfl, .inl rfl⟩
  · exact .pages rfl (.next rfl (hsendable "t" (by decide)) rfl (.ended nofun rfl))
  · rw [hzones]
    rintro zone (_ | ⟨_, _ | ⟨_, ⟨⟩⟩⟩)
    · exact ⟨rfl, hsendable "p" (by decide), hsendable "y" (by decide), .inl rfl, .inl rfl⟩
    · exact ⟨rfl, hsendable "p" (by decide), hsendable "z" (by decide), .inl rfl, .inl rfl⟩
  · rw [hzones]
    rintro zone (_ | ⟨_, _ | ⟨_, ⟨⟩⟩⟩)
    · exact .pages rfl (.next rfl (hsendable "u" (by decide)) rfl
        (.next rfl (hsendable "v" (by decide)) rfl (.ended nofun rfl)))
    · exact .pages rfl (.ended hmissing rfl)
  · rw [hzones]
    rintro zone (_ | ⟨_, _ | ⟨_, ⟨⟩⟩⟩) i hi
    · obtain _ | ⟨_, _ | ⟨_, ⟨⟩⟩⟩ := hi
      · have htexts : Keyed.values ({ name := "a", zone := "y", id := "0" } : Instance)
            = ["a", "y", "", "0", "", ""].map .text := rfl
        exact Keyed.isTexts_of_map htexts
      · have htexts : Keyed.values ({ name := "b", zone := "y", id := "0" } : Instance)
            = ["b", "y", "", "0", "", ""].map .text := rfl
        exact Keyed.isTexts_of_map htexts
    · cases hi

theorem listNodes_served_twoZones :
    ∃ nodes t, twoZoneProvider.listNodes.perform twoZoneSession = (.ok nodes, t) ∧
      (∀ i, i ∈ nodes ↔ i ∈ [{ name := "a", zone := "y", id := "0" },
        { name := "b", zone := "y", id := "0" }]) ∧
      t.calls.map Exchange.request =
        [.list .zones { project := "p" },
          .list .instances { project := "p", zone := "y" },
          .list .instances { project := "p", zone := "y", pageToken := "u" },
          .list .instances { project := "p", zone := "y", pageToken := "v" },
          .list .zones { project := "p", pageToken := "t" },
          .list .instances { project := "p", zone := "z" }] := by
  have hproject : twoZoneProvider.project.perform twoZoneSession = (.ok "p", twoZoneSession) := rfl
  obtain ⟨nodes, t, hrun, -, hmem, hcalls⟩ := listNodes_served twoZoneProvider
    (FixedPages.gives twoZones) hproject rfl twoZones_serves (by decide) (by decide)
  refine ⟨nodes, t, hrun, fun i => ?_, ?_⟩
  · have hzones : Listed.zones.allIn "p" twoZoneAnswers
        = [{ name := "y", region := "" }, { name := "z", region := "" }] := rfl
    have hy : Listed.instances.allIn "p" (twoZoneInstances "y")
        = [{ name := "a", zone := "y", id := "0" }, { name := "b", zone := "y", id := "0" }] := rfl
    have hz : Listed.instances.allIn "p" (twoZoneInstances "z") = [] := rfl
    rw [hmem, hzones]
    simp [hy, hz]
  · rw [hcalls]
    rfl

end Provider

end ComputeNodes

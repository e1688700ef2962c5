/-
Nodes that are picked by their names and identifiers.

A node may be asked for in two ways, and in both at once, and a name may belong to nodes of several
zones.  What is picked is still told by every node alone (`Instance.IsAskedForBy`), so neither the
order of what is asked for counts nor how often it is, and asking for more adds what is asked for
besides.  No node is picked twice because none is listed twice: whatever answers, no two of the
records that a listing keeps are the same (`Keyed.addAll_pairwise`).

A name without a slash is no identifier, so what holds a slash is only ever an identifier.
-/
import ComputeNodes.Proofs.Provider.Drift
import ComputeNodes.Proofs.Provider.NewNode

namespace ComputeNodes

/-! ### Records that are kept -/

namespace Keyed

variable {α : Type} [Keyed α] {others kept l : List α} {a : α}

theorem add_pairwise (hothers : others.Pairwise fun b c => same b c = false)
    (hadd : add others a = .ok kept) : kept.Pairwise fun b c => same b c = false := by
  unfold add at hadd
  split at hadd
  next => cases hadd
  next =>
    cases hadd
    split
    next => exact hothers
    next hnone =>
      have hnew : ∀ b ∈ others, same b a = false := by simpa using hnone
      exact List.pairwise_append.mpr ⟨hothers, List.pairwise_singleton _ _, by simpa using hnew⟩

/-- No two of the records that are kept are the same. -/
theorem addAll_pairwise (hothers : others.Pairwise fun b c => same b c = false)
    (hadd : addAll others l = .ok kept) : kept.Pairwise fun b c => same b c = false := by
  induction l generalizing others with
  | nil =>
    cases hadd
    exact hothers
  | cons a l ih =>
    rw [addAll, List.foldlM_cons] at hadd
    cases hfirst : add others a with
    | error error =>
      rw [hfirst] at hadd
      cases hadd
    | ok sofar =>
      rw [hfirst] at hadd
      exact ih (add_pairwise hothers hfirst) hadd

/-- Of records that hold nothing but texts none is kept twice. -/
theorem nodup_of_pairwise [LawfulKeyed α] (htexts : ∀ a ∈ l, IsTexts a)
    (h : l.Pairwise fun b c => same b c = false) : l.Nodup := by
  refine h.imp_of_mem fun {b c} hb _ hsame => ?_
  rintro rfl
  rw [(same_iff (htexts b hb) (htexts b hb)).mpr rfl] at hsame
  cases hsame

end Keyed

/-! ### What a node is asked for by -/

namespace Instance

/-- Whether a node is asked for: by its name, or by its zone and name with a slash in between. -/
def IsAskedForBy (i : Instance) (ids : List String) : Prop :=
  (∃ id ∈ ids, i.name = .text id) ∨ i.zone.plain ++ "/" ++ i.name.plain ∈ ids

variable {i : Instance} {ids ids' : List String} {id name : String}

theorem isNamedBy_iff : i.isNamedBy (ids.map .text) = true ↔ i.IsAskedForBy ids := by
  have hname : (ids.map Value.text).any i.name.alike = true ↔ ∃ id ∈ ids, i.name = .text id := by
    rw [List.any_map, List.any_eq_true]
    refine exists_congr fun id => and_congr_right fun _ => ⟨Value.eq_of_alike_text, fun heq => ?_⟩
    show i.name.alike (.text id) = true
    rw [heq]
    exact (Value.IsText.alike_iff (.inr ⟨id, rfl⟩) (.inr ⟨id, rfl⟩)).mpr rfl
  rw [isNamedBy, Bool.or_eq_true, hname, List.contains_iff_mem, List.mem_map]
  simp [IsAskedForBy, nodeId, NodeId.write]

theorem isAskedForBy_append :
    i.IsAskedForBy (ids ++ ids') ↔ i.IsAskedForBy ids ∨ i.IsAskedForBy ids' := by
  simp only [IsAskedForBy, List.mem_append, or_and_right, exists_or]
  exact or_or_or_comm

theorem isAskedForBy_congr (h : ∀ id, id ∈ ids ↔ id ∈ ids') :
    i.IsAskedForBy ids ↔ i.IsAskedForBy ids' := by
  simp only [IsAskedForBy, h]

/-- What holds a slash asks for a node by its identifier, if its name does not. -/
theorem isAskedForBy_slash (hname : i.name = .text name) (hwhole : '/' ∉ name.toList)
    (hid : '/' ∈ id.toList) : i.IsAskedForBy [id] ↔ i.zone.plain ++ "/" ++ name = id := by
  have hne : name ≠ id := by
    rintro rfl
    exact hwhole hid
  simp [IsAskedForBy, hname, hne, Value.plain]

end Instance

/-! ### What is picked -/

namespace Provider

variable {τ σ : Type} [Server τ σ]

/-- The nodes among some that are asked for by names and identifiers. -/
def picked (nodes : List Instance) (ids : List String) : List Instance :=
  nodes.filter (·.isNamedBy (ids.map .text))

variable {nodes : List Instance} {ids ids' : List String} {i : Instance}

theorem mem_picked : i ∈ picked nodes ids ↔ i ∈ nodes ∧ i.IsAskedForBy ids := by
  rw [picked, List.mem_filter, Instance.isNamedBy_iff]

theorem picked_congr (h : ∀ id, id ∈ ids ↔ id ∈ ids') : picked nodes ids = picked nodes ids' := by
  refine List.filter_congr fun i _ => ?_
  rw [Bool.eq_iff_iff, Instance.isNamedBy_iff, Instance.isNamedBy_iff,
    Instance.isAskedForBy_congr h]

/-- **Nodes are picked by their names and identifiers.**  Whenever all nodes can be listed, those of
them can be that are asked for, and each once.  It does not count in which order and how often they
are asked for, asking for more adds what is asked for besides, and what holds a slash does not ask
for a node by a name that holds none. -/
theorem listNodesByIds_picked (p : Provider) {s t : Session τ (Account σ) Exchange}
    (hrun : p.listNodes.perform s = (.ok nodes, t)) :
    (∀ ids : List String,
      (p.listNodesByIds (ids.map .text)).perform s = (.ok (picked nodes ids), t)) ∧
    (∀ ids i, i ∈ picked nodes ids ↔ i ∈ nodes ∧
      ((∃ id ∈ ids, i.name = .text id) ∨ i.zone.plain ++ "/" ++ i.name.plain ∈ ids)) ∧
    (∀ ids, (picked nodes ids).Pairwise (fun i j => Keyed.same i j = false) ∧
      ((∀ i ∈ nodes, Keyed.IsTexts i) → (picked nodes ids).Nodup)) ∧
    (∀ ids ids', (∀ id, id ∈ ids ↔ id ∈ ids') → picked nodes ids = picked nodes ids') ∧
    (∀ ids ids' i, i ∈ picked nodes (ids ++ ids') ↔ i ∈ picked nodes ids ∨ i ∈ picked nodes ids') ∧
    ∀ i ∈ nodes, ∀ name, i.name = .text name → '/' ∉ name.toList → ∀ id, '/' ∈ id.toList →
      (i ∈ picked nodes [id] ↔ i.zone.plain ++ "/" ++ name = id) := by
  obtain ⟨asked, -, hkept⟩ := p.listNodes_kept s
  rw [hrun] at hkept
  have hapart (ids : List String) :
      (picked nodes ids).Pairwise fun i j => Keyed.same i j = false :=
    (Keyed.addAll_pairwise List.Pairwise.nil (hkept nodes rfl)).filter _
  refine ⟨fun ids => ?_, fun ids i => mem_picked, fun ids => ⟨hapart ids, fun htexts => ?_⟩,
    fun ids ids' => picked_congr, fun ids ids' i => ?_, fun i hi name hname hwhole id hid => ?_⟩
  · rw [perform_listNodesByIds p (by simp [Value.canBeKey]), hrun]
    rfl
  · exact Keyed.nodup_of_pairwise (fun i hi => htexts i (mem_picked.mp hi).1) (hapart ids)
  · simp only [mem_picked, Instance.isAskedForBy_append, and_or_left]
  · rw [mem_picked, Instance.isAskedForBy_slash hname hwhole hid, and_iff_right hi]

/-- A service of two zones with a node of the same name in both, and another one in the first. -/
def namesakeService : Session Float (Account Script) Exchange where
  now := 0.0
  world := {
    project := ⟨some "p"⟩
    server := [
      { endpoint := .list .zones, answer := .ok { items := [{ name := "y" }, { name := "z" }] } },
      { endpoint := .list .instances,
        answer := .ok { items := [{ name := "a", zone := "y" }, { name := "b", zone := "y" }] } },
      { endpoint := .list .instances,
        answer := .ok { items := [{ name := "a", zone := "z" }] } }] }

/-- A node of that service. -/
def namesakeNode (name zone : String) : Instance := { name, zone, id := "0" }

theorem namesakeService_nodes : (driftingProvider.listNodes.perform namesakeService).1
    = .ok [namesakeNode "a" "y", namesakeNode "b" "y", namesakeNode "a" "z"] :=
  Act.eq_ok_of_toOption (by decide +kernel)

theorem listNodesByIds_picked_namesakes :
    (∃ t, driftingProvider.listNodes.perform namesakeService
        = (.ok [namesakeNode "a" "y", namesakeNode "b" "y", namesakeNode "a" "z"], t) ∧
      (driftingProvider.listNodesByIds (["z/a", "y/b", "a", "a"].map .text)).perform
          namesakeService
        = (.ok [namesakeNode "a" "y", namesakeNode "b" "y", namesakeNode "a" "z"], t)) ∧
      picked [namesakeNode "a" "y", namesakeNode "b" "y", namesakeNode "a" "z"] ["z/a", "b/a"]
        = [namesakeNode "a" "z"] := by
  obtain ⟨hpicked, -⟩ := listNodesByIds_picked driftingProvider (s := namesakeService)
    (Prod.ext namesakeService_nodes rfl)
  exact ⟨⟨_, Prod.ext namesakeService_nodes rfl, hpicked _⟩, by decide +kernel⟩

end Provider

end ComputeNodes

/-
What the body of an insertion holds, and what it reads as.

A body is made of single texts and of rows of texts, and it can be made when each of them can be
sent (`InsertBody.check_eq_ok_iff`).

It is sent as a table put together from others, which leave out a list that is empty and a value
that is null.  A reader takes what is left out for empty, so the two agree on every list, empty or
not.  Read as an instance the body of a specification is that specification, except for the
addresses, which nobody sends.
-/
import ComputeNodes.Proofs.Service.Texts
import ComputeNodes.Service.Fields
import ComputeNodes.Service.Wire

namespace ComputeNodes

/-! ### Tables that are put together -/

theorem Entries.find?_append {α : Type} (t u : Entries α) (key : String) :
    Entries.find? (t ++ u) key = (t.find? key).or (u.find? key) := by
  induction t with
  | nil => rfl
  | cons entry rest ih =>
    obtain ⟨other, value⟩ := entry
    by_cases h : other = key
    · simp [Entries.find?, h]
    · simp [Entries.find?, h, ih]

namespace Table

@[simp] theorem find?_ofGiven_nil (key : String) : (ofGiven []).find? key = none := rfl

@[simp] theorem find?_ofGiven_cons (name : String) (value : Value) (rest : List (String × Value))
    (key : String) : (ofGiven ((name, value) :: rest)).find? key
      = if value ≠ .null ∧ name = key then some value else (ofGiven rest).find? key := by
  unfold ofGiven
  by_cases hvalue : value = .null
  · rw [List.filter_cons_of_neg (by simp [hvalue]), if_neg (by simp [hvalue])]
  · rw [List.filter_cons_of_pos (by simp [hvalue]), Entries.find?]
    simp [hvalue]

@[simp] theorem find?_ofList (name : String) (items : List Value) (key : String) :
    (ofList name items).find? key
      = if name = key ∧ items ≠ [] then some (.list items) else none := by
  cases items with
  | nil => simp [ofList, Entries.find?]
  | cons item rest => by_cases h : name = key <;> simp [ofList, Entries.find?, h]

/-- A list that is left out when it is empty is read as it was. -/
theorem listAt_of_find? {t : Table} {name : String} {items : List Value}
    (h : t.find? name = if items ≠ [] then some (.list items) else none) :
    t.listAt name = items := by
  unfold listAt
  rw [h]
  cases items <;> rfl

theorem textAt_of_find? {t : Table} {name s : String} (h : t.find? name = some (.text s)) :
    t.textAt name = s := by
  unfold textAt textAt? given?
  rw [h]
  rfl

theorem textAt_of_missing {t : Table} {name : String} (h : t.find? name = none) :
    t.textAt name = "" := by
  unfold textAt textAt? given?
  rw [h]
  rfl

end Table

/-! ### Bodies that can be made -/

namespace InsertBody

/-- The texts of a body that stand by themselves. -/
def singles (body : InsertBody) : List Value :=
  body.disks.map NewDisk.sourceImage
    ++ body.networkInterfaces.flatMap (fun interface =>
      interface.accessConfigs.flatMap (fun access => [access.name, access.type])
        ++ [interface.network])
    ++ body.metadata.flatMap (fun entry => [.text entry.1, entry.2])
    ++ body.serviceAccounts.map NewAccount.email
    ++ [body.name, body.machineType, body.description]

/-- The texts of a body that stand in rows. -/
def rows (body : InsertBody) : List Value :=
  body.tags ++ body.serviceAccounts.flatMap NewAccount.scopes

/-- **A body can be made** if all its texts can be sent, and those in rows are there. -/
theorem check_eq_ok_iff {body : InsertBody} :
    body.check = .ok () ↔ (∀ v ∈ body.singles, v.IsSendable) ∧ ∀ v ∈ body.rows, v.IsWholeText := by
  -- the loop over the interfaces holds another one, which belongs to what is done for each of them
  have hinterface (interface : NewInterface) : (do
      for access in interface.accessConfigs do
        Texts.check "AccessConfig" [access.name, access.type]
      Texts.check "NetworkInterface" [interface.network]
      pure (ForInStep.yield PUnit.unit) : Except MessageFault (ForInStep PUnit)) = (do
        (do
          for access in interface.accessConfigs do
            Texts.check "AccessConfig" [access.name, access.type]
          Texts.check "NetworkInterface" [interface.network])
        pure (ForInStep.yield PUnit.unit)) := (bind_assoc _ _ _).symm
  unfold check
  simp only [hinterface, Texts.andThen_eq_ok_iff, Texts.forIn_eq_ok_iff, Texts.check_row_eq_ok_iff]
  simp only [singles, rows, List.forall_mem_append, List.forall_mem_map, List.forall_mem_flatMap,
    List.forall_mem_cons, List.not_mem_nil, false_implies, implies_true, and_true, true_and,
    forall_and]
  tauto

end InsertBody

/-! ### Bodies that are read -/

/-- Whether a value is a text. -/
def Value.HoldsText (v : Value) : Prop := ∃ s : String, v = .text s

/-- Whether a specification is made of texts.  Its addresses need not be any, and the description
may be missing. -/
structure InstanceSpec.HoldsTexts (spec : InstanceSpec) : Prop where
  machineType : spec.machineType.HoldsText
  image : spec.image.HoldsText
  networks : ∀ interface ∈ spec.networkInterfaces, interface.network.HoldsText
  accesses : ∀ interface ∈ spec.networkInterfaces, ∀ access ∈ interface.accessConfigs,
    access.name.HoldsText ∧ access.type.HoldsText
  metadata : ∀ entry ∈ spec.metadata, entry.2.HoldsText
  tags : ∀ tag ∈ spec.tags, tag.HoldsText
  accounts : ∀ account ∈ spec.serviceAccounts,
    account.email.HoldsText ∧ ∀ scope ∈ account.scopes, scope.HoldsText
  description : spec.description = .null ∨ spec.description.HoldsText

namespace InsertBody

/-- The table of a way in, and what it reads as. -/
theorem access_ofGiven {name type : Value} (hname : name.HoldsText) (htype : type.HoldsText) :
    Typed.access (Table.ofGiven [("name", name), ("type_", type)])
      = { name, type := some type, natIp := "" } := by
  obtain ⟨name, rfl⟩ := hname
  obtain ⟨type, rfl⟩ := htype
  rfl

theorem interface_ofGiven {network : Value} (hnetwork : network.HoldsText) (accesses : List Value) :
    Typed.interface (Table.ofGiven [("network", network)]
        ++ Table.ofList "access_configs" accesses)
      = { network, networkIp := ""
          accessConfigs := accesses.map fun access => Typed.access (Table.ofValue access) } := by
  obtain ⟨network, rfl⟩ := hnetwork
  have haccesses : (Table.ofGiven [("network", .text network)]
      ++ Table.ofList "access_configs" accesses).listAt "access_configs" = accesses :=
    Table.listAt_of_find? (by simp [Entries.find?_append])
  have hname : (Table.ofGiven [("network", .text network)]
      ++ Table.ofList "access_configs" accesses).textAt "network" = network :=
    Table.textAt_of_find? (by simp [Entries.find?_append])
  have haddress : (Table.ofGiven [("network", .text network)]
      ++ Table.ofList "access_configs" accesses).textAt "network_i_p" = "" :=
    Table.textAt_of_missing (by simp [Entries.find?_append])
  simp only [Typed.interface, Typed.handed, Table.tablesAt, haccesses, hname, haddress,
    List.map_map, Function.comp_def]

theorem item_ofGiven (key : String) {value : Value} (hvalue : value.HoldsText) :
    (Typed.handed (Table.ofGiven [("key", .text key), ("value", value)]) "key",
        Typed.handed (Table.ofGiven [("key", .text key), ("value", value)]) "value")
      = (.text key, value) := by
  obtain ⟨value, rfl⟩ := hvalue
  rfl

section

variable (name : String) {spec : InstanceSpec}

/-- What a body does not say. -/
theorem find?_fields_eq_none {key : String}
    (hkey : key ∈ ["zone", "status", "id", "self_link"]) :
    (ofSpec name spec).fields.find? key = none := by
  simp only [List.mem_cons, List.not_mem_nil, or_false] at hkey
  rcases hkey with rfl | rfl | rfl | rfl <;>
    simp [fields, ofSpec, Entries.find?_append, Entries.find?]

theorem tags_fields : ((ofSpec name spec).fields.tableAt "tags").listAt "items" = spec.tags := by
  refine Table.listAt_of_find? ?_
  simp [fields, ofSpec, Entries.find?_append, Entries.find?, Table.tableAt, Table.valueAt,
    Table.ofValue]

theorem metadata_fields (h : ∀ entry ∈ spec.metadata, entry.2.HoldsText) :
    (((ofSpec name spec).fields.tableAt "metadata").tablesAt "items").map (fun item =>
        (Typed.handed item "key", Typed.handed item "value"))
      = spec.metadata.map fun entry => (.text entry.1, entry.2) := by
  have hitems : ((ofSpec name spec).fields.tableAt "metadata").listAt "items"
      = spec.metadata.map fun entry =>
          .table (Table.ofGiven [("key", .text entry.1), ("value", entry.2)]) := by
    refine Table.listAt_of_find? ?_
    simp [fields, ofSpec, Entries.find?_append, Entries.find?, Table.tableAt, Table.valueAt,
      Table.ofValue]
  rw [Table.tablesAt, hitems, List.map_map, List.map_map]
  exact List.map_congr_left fun entry hentry => item_ofGiven entry.1 (h entry hentry)

theorem interfaces_fields (h : spec.HoldsTexts) :
    ((ofSpec name spec).fields.tablesAt "network_interfaces").map Typed.interface
      = spec.networkInterfaces.map fun interface =>
          { network := interface.network, networkIp := ""
            accessConfigs := interface.accessConfigs.map fun access =>
              { name := access.name, type := some access.type, natIp := "" } } := by
  have hitems : (ofSpec name spec).fields.listAt "network_interfaces"
      = spec.networkInterfaces.map fun interface =>
          .table (Table.ofGiven [("network", interface.network)]
            ++ Table.ofList "access_configs" (interface.accessConfigs.map fun access =>
              .table (Table.ofGiven [("name", access.name), ("type_", access.type)]))) := by
    refine Table.listAt_of_find? ?_
    simp [fields, ofSpec, Entries.find?_append, Entries.find?, Function.comp_def]
  rw [Table.tablesAt, hitems, List.map_map, List.map_map]
  refine List.map_congr_left fun interface hinterface => ?_
  refine (interface_ofGiven (h.networks interface hinterface) _).trans ?_
  rw [List.map_map]
  congr 1
  refine List.map_congr_left fun access haccess => ?_
  obtain ⟨hname, htype⟩ := h.accesses interface hinterface access haccess
  exact access_ofGiven hname htype

/-- The body of a specification, read as the message of an instance. -/
theorem vm_fields (h : spec.HoldsTexts) :
    Typed.vm (ofSpec name spec).fields
      = { name, machineType := spec.machineType, tags := spec.tags
          metadata := spec.metadata.map fun entry => (.text entry.1, entry.2)
          networkInterfaces := spec.networkInterfaces.map fun interface =>
            { network := interface.network, networkIp := ""
              accessConfigs := interface.accessConfigs.map fun access =>
                { name := access.name, type := some access.type, natIp := "" } } } := by
  obtain ⟨machineType, hmachineType⟩ := h.machineType
  have hname : (ofSpec name spec).fields.textAt "name" = name := Table.textAt_of_find? <| by
    simp [fields, ofSpec, Entries.find?_append]
  have hmachine : (ofSpec name spec).fields.textAt "machine_type" = machineType :=
    Table.textAt_of_find? <| by simp [fields, ofSpec, hmachineType, Entries.find?_append]
  have hmissing {key : String} (hkey : key ∈ ["zone", "status", "id", "self_link"]) :
      (ofSpec name spec).fields.find? key = none :=
    find?_fields_eq_none name hkey
  have hid : Typed.number (ofSpec name spec).fields "id" = .int 0 := by
    rw [Typed.number, Table.valueAt, hmissing (by simp)]
    rfl
  unfold Typed.vm Typed.handed
  rw [hname, hmachine, hid, Table.textAt_of_missing (hmissing (by simp : "zone" ∈ _)),
    Table.textAt_of_missing (hmissing (by simp : "status" ∈ _)),
    Table.textAt_of_missing (hmissing (by simp : "self_link" ∈ _)), tags_fields,
    interfaces_fields name h, hmachineType, ← metadata_fields name h.metadata]
  rfl

end

/-- The body of a specification holds texts and nothing else, but for what is null where a single
text stands. -/
theorem texts_ofSpec (name : String) {spec : InstanceSpec} (h : spec.HoldsTexts) :
    (∀ v ∈ (ofSpec name spec).singles, v = .null ∨ v.HoldsText) ∧
      ∀ v ∈ (ofSpec name spec).rows, v.HoldsText := by
  have hdescription : spec.description.orNull = .null ∨ spec.description.orNull.HoldsText := by
    unfold Value.orNull
    split
    · exact .inl rfl
    · exact h.description
  simp only [singles, rows, ofSpec, List.forall_mem_append, List.forall_mem_map,
    List.forall_mem_flatMap, List.forall_mem_singleton, List.forall_mem_cons]
  refine ⟨⟨⟨⟨⟨.inr h.image, fun interface hinterface => ⟨fun access haccess => ?_, ?_⟩⟩,
    fun entry hentry => ?_⟩, fun account haccount => ?_⟩, .inr ⟨name, rfl⟩, .inr h.machineType, ?_⟩,
    h.tags, fun account haccount => (h.accounts account haccount).2⟩
  · obtain ⟨hname, htype⟩ := h.accesses interface hinterface access haccess
    exact ⟨.inr hname, .inr htype⟩
  · exact .inr (h.networks interface hinterface)
  · exact ⟨.inr ⟨entry.1, rfl⟩, .inr (h.metadata entry hentry)⟩
  · exact .inr (h.accounts account haccount).1
  · exact hdescription

/-- It can be made when all those texts are of whole characters. -/
theorem check_ofSpec_eq_ok_iff (name : String) {spec : InstanceSpec} (h : spec.HoldsTexts) :
    (ofSpec name spec).check = .ok () ↔
      ∀ s : String, .text s ∈ (ofSpec name spec).singles ++ (ofSpec name spec).rows →
        Text.halves? s.toList = none := by
  obtain ⟨hsingles, hrows⟩ := texts_ofSpec name h
  rw [check_eq_ok_iff]
  constructor
  · rintro ⟨hsendable, hwhole⟩ s hmem
    rcases List.mem_append.mp hmem with hmem | hmem
    · rcases hsendable _ hmem with hnull | ⟨_, htext, hs⟩
      · cases hnull
      · cases htext
        exact hs
    · obtain ⟨_, htext, hs⟩ := hwhole _ hmem
      cases htext
      exact hs
  · intro hwhole
    refine ⟨fun v hv => ?_, fun v hv => ?_⟩
    · rcases hsingles v hv with rfl | ⟨s, rfl⟩
      · exact .inl rfl
      · exact .inr ⟨s, rfl, hwhole s (List.mem_append_left _ hv)⟩
    · obtain ⟨s, rfl⟩ := hrows v hv
      exact ⟨s, rfl, hwhole s (List.mem_append_right _ hv)⟩

/-- **What is asked for reads as what was specified.**  A body can be made when all its texts are
of whole characters.  Read as an instance it has the name, the machine type, the tags, the metadata
and the interfaces of the specification, all of them in order; only the addresses of the interfaces
and of the ways in are gone, and what no body says is empty. -/
theorem toInstance_ofSpec (name : String) {spec : InstanceSpec} (h : spec.HoldsTexts) :
    ((ofSpec name spec).check = .ok () ↔
      ∀ s : String, .text s ∈ (ofSpec name spec).singles ++ (ofSpec name spec).rows →
        Text.halves? s.toList = none) ∧
    (Wire.typed.vm (.table (ofSpec name spec).fields)).map InstanceMessage.toInstance
      = .ok
          { name
            zone := ""
            status := ""
            id := "0"
            machineType := spec.machineType
            selfLink := ""
            tags := spec.tags
            metadata := spec.metadata.map fun entry => (.text entry.1, entry.2)
            networkInterfaces := spec.networkInterfaces.map fun interface =>
              { interface with
                networkIp := .null
                accessConfigs := interface.accessConfigs.map ({ · with natIp := .null }) } } := by
  refine ⟨check_ofSpec_eq_ok_iff name h, ?_⟩
  have hread : Wire.typed.vm (.table (ofSpec name spec).fields)
      = .ok (Typed.vm (ofSpec name spec).fields) := rfl
  rw [hread, vm_fields name h]
  simp only [InstanceMessage.toInstance, InterfaceMessage.toNetworkInterface,
    AccessMessage.toAccessConfig, Except.map, List.map_map, Function.comp_def]
  rfl

/-- A specification with an interface that has addresses and two ways in, and one that has none. -/
def twoInterfaces : InstanceSpec where
  machineType := "n1"
  image := "images/i"
  networkInterfaces := [
    { network := "a", networkIp := "10.0.0.2"
      accessConfigs := [{ natIp := "34.1.2.3" }, { name := "", type := "DIRECT" }] },
    { network := "b" }]
  metadata := [("ssh-keys", "u:k"), ("startup-script", "")]
  serviceAccounts := [⟨"robot", ["compute"]⟩]

theorem toInstance_ofSpec_twoInterfaces :
    (ofSpec "web-1" twoInterfaces).check = .ok () ∧
    (Wire.typed.vm (.table (ofSpec "web-1" twoInterfaces).fields)).map InstanceMessage.toInstance
      = .ok
          { name := "web-1", zone := "", id := "0", machineType := "n1", tags := []
            metadata := [("ssh-keys", "u:k"), ("startup-script", "")]
            networkInterfaces := [
              { network := "a", accessConfigs := [{}, { name := "", type := "DIRECT" }] },
              { network := "b" }] } := by
  have htexts : twoInterfaces.HoldsTexts := by
    constructor <;> simp [twoInterfaces, Value.HoldsText]
  obtain ⟨hmade, hread⟩ := toInstance_ofSpec "web-1" htexts
  have hwhole : ∀ v ∈ (ofSpec "web-1" twoInterfaces).singles ++ (ofSpec "web-1" twoInterfaces).rows,
      Text.halves? v.plain.toList = none := by decide +kernel
  exact ⟨hmade.mpr fun s hs => hwhole _ hs, hread⟩

end InsertBody

end ComputeNodes

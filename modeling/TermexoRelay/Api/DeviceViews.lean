import TermexoRelay.Api.Errors
import TermexoRelay.Database.Queries
import TermexoRelay.Registry.Snapshots
import TermexoRelay.Relay.Addressing
import Mathlib.Data.List.Sort

/-!
# The administrator's device list

The console's list is made of two sources: a row for every enrolled device, and what downstream
relays announced of theirs. What counts as announced is read off the route, which is not the origin
of the entry.
-/

namespace TermexoRelay

open Transition

structure DeviceView where
  id : String
  kind : DeviceKind
  name : String
  ownerUserId : Option String
  ownerUsername : Option String
  online : Bool
  connectedSince : Option Int
  lastSeenAt : Option Int
  lastIp : Option String
  lastVersion : Option String
  /-- The relay ids a stream to this device crosses; empty for a directly attached one. -/
  via : List String
  viaNames : List String
  revokedAt : Option Int
  note : Option String
  accessUrl : String
  access : DeviceAccess
deriving DecidableEq, Repr

namespace RegistryState

def snapshot (state : RegistryState) : List OnlineDevice :=
  state.entries.rows.map Entry.device

def hopNames (state : RegistryState) (hops : List String) : List String :=
  hops.map fun relayId =>
    (((state.relayLinks.lookup relayId).bind fun deviceId => state.entries.lookup deviceId).map
      fun entry => entry.device.name).getD relayId

end RegistryState

namespace Database

/-- `list_devices`, in the order the query returned the ids. -/
def listDevices (db : Database) (fault : Fault) (order : List String) :
    Option (Except DatabaseError (List DeviceRecord)) :=
  if order.Perm (db.devices.keysWhere fun _ => true) ∧ db.newestFirst order then
    some (fault.guard (.ok (order.filterMap db.devices.find)))
  else none

/-- `list_users`; what is made of the rows does not depend on their order. -/
def listUsers (db : Database) (fault : Fault) : Except DatabaseError (List UserRecord) :=
  fault.guard (.ok db.users.table.rows)

end Database

structure ViewContext where
  addressing : DeviceAddressing
  registry : RegistryState
  usernames : Table String String
  online : Table String OnlineDevice

namespace ViewContext

def build (addressing : DeviceAddressing) (registry : RegistryState) (db : Database)
    (fault : Fault) : Except DatabaseError ViewContext :=
  (db.listUsers fault).map fun users =>
    { addressing
      registry
      usernames := Table.collect (users.map fun user => (user.id, user.username))
      online := Table.collect (registry.snapshot.map fun device => (device.deviceId, device)) }

def usernameOf (context : ViewContext) (userId : Option String) : Option String :=
  userId.bind fun id => context.usernames.lookup id

def device (context : ViewContext) (record : DeviceRecord) : DeviceView :=
  let live := context.online.lookup record.id
  let hops := (live.map fun device => device.route.hops).getD []
  { id := record.id
    kind := record.kind
    name := record.name
    ownerUserId := record.ownerUserId
    ownerUsername := context.usernameOf record.ownerUserId
    online := live.isSome
    connectedSince := live.map OnlineDevice.connectedSince
    lastSeenAt := record.lastSeenAt
    lastIp := (live.bind OnlineDevice.ip).or record.lastIp
    lastVersion := (live.bind OnlineDevice.version).or record.lastVersion
    via := hops
    viaNames := context.registry.hopNames hops
    revokedAt := record.revokedAt
    note := record.note
    accessUrl := context.addressing.deviceUrl record.id
    access := record.access }

/-- A device without a row: its owner and its policy belong to the relay it enrolled with. -/
def announcedDevice (context : ViewContext) (device : OnlineDevice) : DeviceView :=
  { id := device.deviceId
    kind := device.kind
    name := device.name
    ownerUserId := none
    ownerUsername := none
    online := true
    connectedSince := some device.connectedSince
    lastSeenAt := some device.connectedSince
    lastIp := none
    lastVersion := none
    via := device.route.hops
    viaNames := context.registry.hopNames device.route.hops
    revokedAt := none
    note := none
    accessUrl := context.addressing.deviceUrl device.deviceId
    access := .publicAccess }

/-- Announced devices that have no row here, by name; `values` is the order of the hash map. -/
def announcedOnly (context : ViewContext) (values : List String) (known : List DeviceRecord) :
    List DeviceView :=
  ((((values.filterMap context.online.lookup).filter fun device => device.route.hops ≠ []).filter
    fun device => !known.any fun record => record.id = device.deviceId).map
      context.announcedDevice).insertionSort fun left right => left.name ≤ right.name

end ViewContext

/-- What the environment settles for one list: the orders of the query and of the hash map, and
the queries that fail. -/
structure ListChoice where
  order : List String
  values : List String
  listFault : Fault := none
  usersFault : Fault := none

/-- `list_all`, from the two databases its queries find and the table it takes the snapshot of. -/
def listAll (addressing : DeviceAddressing) (db users : Database) (registry : RegistryState)
    (choice : ListChoice) : Option (Except ApiError (List DeviceView)) :=
  (db.listDevices choice.listFault choice.order).bind fun
    | .error e => some (.error (.ofDatabase e))
    | .ok records =>
        match ViewContext.build addressing registry users choice.usersFault with
        | .error e => some (.error (.ofDatabase e))
        | .ok context =>
            if choice.values.Perm context.online.keys then
              some (.ok (records.map context.device ++
                context.announcedOnly choice.values records))
            else none

section Lists

variable {db : Database} {fault : Fault} {order : List String} {records : List DeviceRecord}
  {addressing : DeviceAddressing} {registry : RegistryState} {context : ViewContext}
  {values : List String}

theorem listDevices_eq_ok (h : db.listDevices fault order = some (.ok records)) :
    (records.map DeviceRecord.id).Nodup ∧
      ∀ record, record ∈ records ↔ db.devices.find record.id = some record := by
  simp only [Database.listDevices, Option.ite_none_right_eq_some, Option.some.injEq] at h
  obtain ⟨⟨hperm, -⟩, h⟩ := h
  obtain ⟨-, h⟩ := Fault.guard_eq_ok.mp h
  obtain rfl := Except.ok.inj h
  have hmem : ∀ {id}, id ∈ order ↔ (db.devices.find id).isSome = true := by
    intro id
    rw [hperm.mem_iff, Rows.mem_keysWhere, Option.isSome_iff_exists]
    simp
  refine ⟨?_, fun record => ?_⟩
  · have hids : (order.filterMap db.devices.find).map DeviceRecord.id = order :=
      Table.map_filterMap_lookup db.devices.keyed fun id hid => hmem.mp hid
    rw [hids, hperm.nodup_iff]
    exact Rows.nodup_keysWhere _ _
  · rw [List.mem_filterMap]
    constructor
    · rintro ⟨id, -, hrecord⟩
      rwa [Rows.key_of_find hrecord]
    · intro hrecord
      exact ⟨record.id, hmem.mpr (by rw [hrecord]; rfl), hrecord⟩

theorem exists_order (db : Database) :
    ∃ order, order.Perm (db.devices.keysWhere fun _ => true) ∧ db.newestFirst order := by
  let rows := db.devices.table.rows.insertionSort fun a b => b.createdAt ≤ a.createdAt
  have hperm : rows.Perm db.devices.table.rows := List.perm_insertionSort _ _
  have hfound : ∀ record ∈ rows, db.devices.find record.id = some record := by
    intro record hrecord
    obtain ⟨id, hid⟩ := Table.mem_rows.mp (hperm.mem_iff.mp hrecord)
    rwa [Rows.key_of_find hid]
  refine ⟨rows.map DeviceRecord.id, ?_, ?_⟩
  · have hkeys : (db.devices.keysWhere fun _ => true) =
        db.devices.table.rows.map DeviceRecord.id := by
      rw [Table.map_rows_of_keyed db.devices.keyed, Rows.keysWhere, Table.keysWhere,
        List.filter_true]
      rfl
    rw [hkeys]
    exact hperm.map _
  · have hsame : (rows.map DeviceRecord.id).filterMap db.devices.find = rows := by
      rw [List.filterMap_map]
      exact (List.filterMap_congr hfound).trans List.filterMap_some
    rw [Database.newestFirst, hsame]
    exact List.pairwise_insertionSort _ _

theorem ViewContext.lookup_online (hs : registry.WellFormed)
    (h : ViewContext.build addressing registry db fault = .ok context) (id : String)
    (device : OnlineDevice) : context.online.lookup id = some device ↔
      ∃ entry, registry.entries.lookup id = some entry ∧ entry.device = device := by
  have hnamed : ∀ id entry, registry.entries.lookup id = some entry →
      entry.device.deviceId = id := fun id entry hentry => (hs id entry hentry).named
  cases husers : db.listUsers fault with
  | error e =>
      rw [ViewContext.build, husers] at h
      cases h
  | ok users =>
      rw [ViewContext.build, husers] at h
      obtain rfl := Except.ok.inj h
      have hids : ((registry.snapshot.map fun device => (device.deviceId, device)).map
          Prod.fst).Nodup := by
        have hkeys := Table.map_rows_of_keyed hnamed
        rw [RegistryState.snapshot, List.map_map, List.map_map]
        exact hkeys ▸ registry.entries.nodupKeys
      rw [Table.lookup_collect hids]
      simp only [RegistryState.snapshot, List.map_map, List.mem_map, Function.comp_apply,
        Prod.mk.injEq, Table.mem_rows]
      constructor
      · rintro ⟨entry, ⟨id', hentry⟩, hid, rfl⟩
        rw [hnamed id' entry hentry] at hid
        exact ⟨entry, hid ▸ hentry, rfl⟩
      · rintro ⟨entry, hentry, rfl⟩
        exact ⟨entry, ⟨id, hentry⟩, hnamed id entry hentry, rfl⟩

theorem ViewContext.announcedOnly_spec
    (hnamed : ∀ id device, context.online.lookup id = some device → device.deviceId = id)
    (hvalues : values.Perm context.online.keys) (known : List DeviceRecord) :
    ((context.announcedOnly values known).map DeviceView.id).Nodup ∧
      ∀ view, view ∈ context.announcedOnly values known ↔ ∃ device,
        context.online.lookup device.deviceId = some device ∧ device.route.hops ≠ [] ∧
          (∀ record ∈ known, record.id ≠ device.deviceId) ∧
            context.announcedDevice device = view := by
  have hids := Table.map_filterMap_lookup hnamed fun id (hid : id ∈ values) =>
    AList.lookup_isSome.mpr (hvalues.mem_iff.mp hid)
  constructor
  · rw [ViewContext.announcedOnly,
      ((List.perm_insertionSort _ _).map DeviceView.id).nodup_iff, List.map_map]
    have hnodup : ((values.filterMap context.online.lookup).map OnlineDevice.deviceId).Nodup := by
      rw [hids, hvalues.nodup_iff]
      exact context.online.nodupKeys
    exact hnodup.sublist ((List.filter_sublist.trans List.filter_sublist).map _)
  · intro view
    simp only [ViewContext.announcedOnly, List.mem_insertionSort, List.mem_map, List.mem_filter,
      List.mem_filterMap, decide_eq_true_eq, Bool.not_eq_true', List.any_eq_false]
    constructor
    · rintro ⟨device, ⟨⟨⟨id, -, hdevice⟩, hhops⟩, hnew⟩, rfl⟩
      refine ⟨device, ?_, hhops, hnew, rfl⟩
      rwa [hnamed id device hdevice]
    · rintro ⟨device, hdevice, hhops, hnew, rfl⟩
      refine ⟨device, ⟨⟨⟨device.deviceId, ?_, hdevice⟩, hhops⟩, hnew⟩, rfl⟩
      rw [hvalues.mem_iff, ← AList.mem_keys]
      exact AList.lookup_isSome.mp (by rw [hdevice]; rfl)

end Lists

/-- Every device the relay has a row for or can route to is on the list once, and what it can route
to is marked online with its hops. -/
structure DeviceListComplete (db : Database) (registry : RegistryState) (views : List DeviceView) :
    Prop where
  rows : ∀ id record, db.devices.find id = some record →
    (views.map DeviceView.id).count id = 1 ∧ ∃ view ∈ views, view.id = id ∧
      view.name = record.name ∧ view.online = registry.isOnline id
  rowless : ∀ id entry, registry.entries.lookup id = some entry → db.devices.find id = none →
    (views.map DeviceView.id).count id = 1 ∧ ∃ view ∈ views, view.id = id ∧
      view.online = true ∧ view.via = entry.device.route.hops

section Completeness

variable {db : Database} {registry : RegistryState} {context : ViewContext}
  {records : List DeviceRecord} {values : List String}

/-- A device is either stored or announced, and on the list once. -/
theorem nodup_views
    (hnamed : ∀ id device, context.online.lookup id = some device → device.deviceId = id)
    (hvalues : values.Perm context.online.keys)
    (hnodup : (records.map DeviceRecord.id).Nodup) :
    ((records.map context.device ++ context.announcedOnly values records).map
      DeviceView.id).Nodup := by
  obtain ⟨hannounced, hspec⟩ := ViewContext.announcedOnly_spec hnamed hvalues records
  have hrows : (records.map context.device).map DeviceView.id = records.map DeviceRecord.id := by
    rw [List.map_map]
    rfl
  rw [List.map_append, hrows, List.nodup_append]
  refine ⟨hnodup, hannounced, ?_⟩
  rintro _ hrecord _ hview rfl
  obtain ⟨record, hrecord, hid⟩ := List.mem_map.mp hrecord
  obtain ⟨view, hview, hsame⟩ := List.mem_map.mp hview
  obtain ⟨device, -, -, hnew, rfl⟩ := (hspec view).mp hview
  exact hnew record hrecord (hid.trans hsame.symm)

theorem hops_of_complete
    (hnamed : ∀ id device, context.online.lookup id = some device → device.deviceId = id)
    (honline : ∀ id device, context.online.lookup id = some device ↔
      ∃ entry, registry.entries.lookup id = some entry ∧ entry.device = device)
    (hvalues : values.Perm context.online.keys)
    (hmem : ∀ record, record ∈ records ↔ db.devices.find record.id = some record)
    (hcomplete : DeviceListComplete db registry
      (records.map context.device ++ context.announcedOnly values records))
    {id : String} {entry : Entry} (hentry : registry.entries.lookup id = some entry)
    (hrow : db.devices.find id = none) : entry.device.route.hops ≠ [] := by
  obtain ⟨-, hspec⟩ := ViewContext.announcedOnly_spec hnamed hvalues records
  obtain ⟨-, view, hview, hid, -⟩ := hcomplete.rowless id entry hentry hrow
  rcases List.mem_append.mp hview with hview | hview
  · obtain ⟨record, hrecord, rfl⟩ := List.mem_map.mp hview
    have hfound : db.devices.find id = some record := hid ▸ (hmem record).mp hrecord
    rw [hrow] at hfound
    cases hfound
  · obtain ⟨device, hdevice, hhops, -, rfl⟩ := (hspec view).mp hview
    have hsame : device.deviceId = id := hid
    obtain ⟨entry', hentry', rfl⟩ := (honline _ _).mp hdevice
    rw [hsame, hentry, Option.some.injEq] at hentry'
    subst hentry'
    exact hhops

/-- Rows and announced devices make up a complete list as far as the announced ones have hops. -/
theorem complete_iff_hops
    (hnodup : (records.map DeviceRecord.id).Nodup)
    (hmem : ∀ record, record ∈ records ↔ db.devices.find record.id = some record)
    (hs : registry.WellFormed)
    (honline : ∀ id device, context.online.lookup id = some device ↔
      ∃ entry, registry.entries.lookup id = some entry ∧ entry.device = device)
    (hvalues : values.Perm context.online.keys) :
    DeviceListComplete db registry
        (records.map context.device ++ context.announcedOnly values records) ↔
      ∀ id entry, registry.entries.lookup id = some entry → db.devices.find id = none →
        entry.device.route.hops ≠ [] := by
  have hnamed : ∀ id device, context.online.lookup id = some device → device.deviceId = id := by
    intro id device hdevice
    obtain ⟨entry, hentry, rfl⟩ := (honline id device).mp hdevice
    exact (hs id entry hentry).named
  have hcount : ∀ view ∈ records.map context.device ++ context.announcedOnly values records,
      ((records.map context.device ++ context.announcedOnly values records).map
        DeviceView.id).count view.id = 1 := fun view hview =>
    List.count_eq_one_of_mem (nodup_views hnamed hvalues hnodup) (List.mem_map_of_mem hview)
  constructor
  · intro hcomplete id entry
    exact hops_of_complete hnamed honline hvalues hmem hcomplete
  · intro hhops
    refine ⟨fun id record hrecord => ?_, fun id entry hentry hrow => ?_⟩
    · obtain rfl : record.id = id := Rows.key_of_find hrecord
      have hview : context.device record ∈
          records.map context.device ++ context.announcedOnly values records :=
        List.mem_append_left _ (List.mem_map_of_mem ((hmem record).mpr hrecord))
      refine ⟨hcount _ hview, _, hview, rfl, rfl, ?_⟩
      change (context.online.lookup record.id).isSome = (registry.entries.lookup record.id).isSome
      rw [Bool.eq_iff_iff, Option.isSome_iff_exists, Option.isSome_iff_exists]
      constructor
      · rintro ⟨device, hdevice⟩
        obtain ⟨entry, hentry, -⟩ := (honline _ _).mp hdevice
        exact ⟨entry, hentry⟩
      · rintro ⟨entry, hentry⟩
        exact ⟨entry.device, (honline _ _).mpr ⟨entry, hentry, rfl⟩⟩
    · obtain rfl : entry.device.deviceId = id := (hs id entry hentry).named
      have hview : context.announcedDevice entry.device ∈
          records.map context.device ++ context.announcedOnly values records := by
        obtain ⟨-, hspec⟩ := ViewContext.announcedOnly_spec hnamed hvalues records
        refine List.mem_append_right _ ((hspec _).mpr ⟨entry.device, ?_, ?_, ?_, rfl⟩)
        · exact (honline _ _).mpr ⟨entry, hentry, rfl⟩
        · exact hhops _ entry hentry hrow
        · intro record hrecord hid
          rw [← hid, (hmem record).mp hrecord] at hrow
          cases hrow
      exact ⟨hcount _ hview, _, hview, rfl, rfl, rfl⟩

end Completeness

/-- The list is complete exactly when every device that is online without a row has hops. -/
theorem listAll_complete_iff {relayId : String} {maxHops : Nat} {p : PublicationState}
    (hreachable : Reachable (Publication.step relayId maxHops) Publication.init p)
    (addressing : DeviceAddressing) (db users : Database) :
    (∃ choice views, listAll addressing db users p.shared.registry.state choice =
      some (.ok views)) ∧
    ∀ choice views, listAll addressing db users p.shared.registry.state choice =
        some (.ok views) →
      (DeviceListComplete db p.shared.registry.state views ↔
        ∀ id entry, p.shared.registry.state.entries.lookup id = some entry →
          db.devices.find id = none → entry.device.route.hops ≠ []) := by
  have hs := (sound_of_reachable hreachable).formed
  constructor
  · obtain ⟨order, hperm, hnewest⟩ := exists_order db
    obtain ⟨context, hbuild⟩ : ∃ context, ViewContext.build addressing p.shared.registry.state
        users none = .ok context := ⟨_, rfl⟩
    have hrecords : db.listDevices none order =
        some (.ok (order.filterMap db.devices.find)) := by
      rw [Database.listDevices, if_pos ⟨hperm, hnewest⟩]
      rfl
    refine ⟨⟨order, context.online.keys, none, none⟩,
      (order.filterMap db.devices.find).map context.device ++
        context.announcedOnly context.online.keys (order.filterMap db.devices.find), ?_⟩
    rw [listAll, hrecords, Option.bind_some]
    simp only [hbuild, List.Perm.refl, if_true]
  · intro choice views hlist
    obtain ⟨result, hrecords, hlist⟩ := Option.bind_eq_some_iff.mp hlist
    cases result with
    | error e => cases hlist
    | ok records =>
        simp only at hlist
        split at hlist
        · cases hlist
        · next context hbuild =>
            rw [Option.ite_none_right_eq_some] at hlist
            obtain ⟨hvalues, hviews⟩ := hlist
            obtain rfl := Except.ok.inj (Option.some.inj hviews)
            obtain ⟨hnodup, hmem⟩ := listDevices_eq_ok hrecords
            exact complete_iff_hops hnodup hmem hs (ViewContext.lookup_online hs hbuild) hvalues

def deskOnly : Database where
  users := .empty
  devices := (Rows.empty.insert ⟨"device-a", .desktop, "desk", none, "hash", none, 0, none, none,
    none, none, .publicAccess⟩).getD .empty
  enrollmentCodes := .empty
  consoleSessions := .empty

def plainAddressing : DeviceAddressing where
  publicUrl := ⟨"https://hub.example.com", "hub.example.com", true, by decide, by decide⟩
  subdomainBase := none

def oneEach : ListChoice := ⟨["device-a"], ["device-b"], none, none⟩

theorem listAll_complete_iff_relayed :
    ∃ p, run (Publication.step "relay-a" 8) Publication.init (firstSnapshot ["relay-b"]) =
        some p ∧
      ∃ views, listAll plainAddressing deskOnly .empty p.shared.registry.state oneEach =
          some (.ok views) ∧
        DeviceListComplete deskOnly p.shared.registry.state views := by
  obtain ⟨p, hp, hlisted, hhops⟩ := exists_run (Publication.step "relay-a" 8) Publication.init
    (firstSnapshot ["relay-b"]) (fun p =>
      (listAll plainAddressing deskOnly .empty p.shared.registry.state oneEach).any
        (fun result => result.toOption.isSome) = true ∧
      ∀ entry ∈ p.shared.registry.state.entries.rows, entry.device.route.hops ≠ [])
    (by decide)
  obtain ⟨result, hlist, hok⟩ := (Option.any_eq_true _ _).mp hlisted
  cases result with
  | error e => cases hok
  | ok views =>
      refine ⟨p, hp, views, hlist, ?_⟩
      refine ((listAll_complete_iff ⟨_, hp⟩ _ _ _).2 _ _ hlist).mpr fun id entry hentry _ => ?_
      exact hhops entry (Table.mem_rows.mpr ⟨id, hentry⟩)

/-- A device that is announced without hops is on no list. -/
theorem listAll_hides_hopless :
    ¬ ∀ (relayId : String) (maxHops : Nat) (p : PublicationState),
      Reachable (Publication.step relayId maxHops) Publication.init p →
      ∀ (addressing : DeviceAddressing) (db users : Database) (choice : ListChoice)
        (views : List DeviceView),
      listAll addressing db users p.shared.registry.state choice = some (.ok views) →
      DeviceListComplete db p.shared.registry.state views := by
  intro hcomplete
  obtain ⟨p, hp, hlisted, honline⟩ := exists_run (Publication.step "relay-a" 8) Publication.init
    (firstSnapshot []) (fun p =>
      (listAll plainAddressing deskOnly .empty p.shared.registry.state oneEach).any
        (fun result => result.toOption.any fun views =>
          decide ("device-b" ∉ views.map DeviceView.id)) = true ∧
      p.shared.registry.state.isOnline "device-b" = true) (by decide)
  obtain ⟨result, hlist, hok⟩ := (Option.any_eq_true _ _).mp hlisted
  obtain ⟨entry, hentry⟩ := Option.isSome_iff_exists.mp honline
  cases result with
  | error e => cases hok
  | ok views =>
      have hviews := hcomplete "relay-a" 8 p ⟨_, hp⟩ _ _ _ _ views hlist
      obtain ⟨-, view, hview, hid, -⟩ := hviews.rowless "device-b" entry hentry (by decide)
      have hmissing : "device-b" ∉ views.map DeviceView.id := of_decide_eq_true hok
      exact hmissing (hid ▸ List.mem_map_of_mem hview)

end TermexoRelay

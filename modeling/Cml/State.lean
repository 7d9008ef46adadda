import Cml.Netdev

set_option autoImplicit false

namespace Cml

structure Actions where
  add : Bool
  remove : Bool
deriving DecidableEq, Repr

/-- The members of `uevent_event_t` the hotplug code reads. -/
structure UeventEvent where
  subsystem : String
  devtype : String
  devpath : String
  devname : String
  interface : String
  major : Int
  minor : Int
  usbVendor : UInt16
  usbProduct : UInt16
deriving DecidableEq, Repr

/-- `compartment_state_t`, of which the move reads the target's state. -/
inductive CompartmentState where
  | stopped
  | starting
  | booting
  | running
  | freezing
  | frozen
  | shuttingDown
  | zombie
  | rebooting
  | setup
deriving DecidableEq, Repr

/-- What the kernel, sysfs, devfs and cmld answer while one callback runs. Any answers are
allowed, and they may change from one callback to the next. -/
structure Host where
  fileExists : String → Bool
  fileRead : String → Option String
  isWifi : String → Bool
  macByIfname : String → Option Mac
  renameIfi : String → String → Bool
  replaceMember : String → String → Bool
  c0 : Option Container
  state : Container → CompartmentState
  addNetIface : Container → PnetCfg → Bool

/-- The calls the hotplug code makes into the container, network and uevent code. -/
inductive Call where
  | deviceAllow (container : Container) (type : Char) (major minor : Int) (assign : Bool)
  | deviceDeny (container : Container) (type : Char) (major minor : Int)
  | tokenAttach (container : Container)
  | tokenDetach (container : Container)
  | renameIfi (oldname newname : String)
  | addNetIface (container : Container) (cfg : PnetCfg)
  | injectIntoNetns (event : UeventEvent) (container : Container)
deriving DecidableEq, Repr

def Call.isDevice : Call → Bool
  | .deviceAllow .. | .deviceDeny .. | .tokenAttach _ | .tokenDetach _ => true
  | .renameIfi .. | .addNetIface .. | .injectIntoNetns .. => false

inductive UeventMember where
  | interface
  | devpath
deriving DecidableEq, Repr

/-- Modelled from the spec: `uevent_replace_member` of `common/uevent.c` is not in the sources. It
returns a copy with the member substituted, and may fail. -/
def ueventReplaceMember (host : Host) (event : UeventEvent) (member : UeventMember)
    (newmember : String) : Option UeventEvent :=
  match member with
  | .interface =>
      if host.replaceMember event.interface newmember then
        some { event with interface := newmember }
      else none
  | .devpath =>
      if host.replaceMember event.devpath newmember then
        some { event with devpath := newmember }
      else none

/-- Modelled from the spec: `cmld_netif_phys_add_by_name` of `cmld.c` is not in the sources. It
records the interface in cmld's list of physical interfaces. -/
def cmldNetifPhysAddByName (phys : List String) (ifname : String) : List String :=
  phys ++ [ifname]

/-- Modelled from the spec: `cmld_netif_phys_remove_by_name` of `cmld.c` is not in the sources.
It drops the interface from cmld's list and says whether it was there. -/
def cmldNetifPhysRemoveByName (phys : List String) (ifname : String) : Bool × List String :=
  (phys.contains ifname, phys.erase ifname)

structure TokenData where
  container : Container
  devname : String
deriving DecidableEq, Repr

/-- The data a timer's callback gets: token data for `hotplug_token_timer_cb`, an event copy for
`hotplug_sysfs_netif_timer_cb`. -/
inductive TimerData where
  | token (data : TokenData)
  | netif (event : UeventEvent)
deriving DecidableEq, Repr

structure Timer where
  id : Nat
  data : TimerData
deriving DecidableEq, Repr

/-- The daemon as the hotplug code sees it: both mapping tables, the configuration records the net
table points into, cmld's physical interfaces, the statics, and the armed timers. -/
structure Hotplug where
  devMappings : List DevMapping
  netdevMappings : List NetdevMapping
  pnetCfgs : Nat → PnetCfg
  netifPhys : List String
  retries : Int
  wlanIdx : UInt32
  ethIdx : UInt32
  timers : List Timer
  nextTimer : Nat

def Hotplug.new (pnetCfgs : Nat → PnetCfg) (netifPhys : List String) : Hotplug :=
  { devMappings := [], netdevMappings := [], pnetCfgs, netifPhys, retries := 10, wlanIdx := 0,
    ethIdx := 0, timers := [], nextTimer := 0 }

/-- Modelled from the spec: `event_timer_new` (`EVENT_TIMER_REPEAT_FOREVER`) and `event_add_timer`
of `common/event.c`, not in the sources; the handle allows later removal. -/
def Hotplug.addTimer (s : Hotplug) (data : TimerData) : Hotplug :=
  { s with timers := s.timers ++ [⟨s.nextTimer, data⟩], nextTimer := s.nextTimer + 1 }

/-- Modelled from the spec: `event_remove_timer` of `common/event.c`, which is not in the
sources; a callback may remove its own timer. -/
def Hotplug.removeTimer (s : Hotplug) (id : Nat) : Hotplug :=
  { s with timers := s.timers.filter (·.id != id) }

def Hotplug.findTimer (s : Hotplug) (id : Nat) : Option TimerData :=
  (s.timers.find? (·.id == id)).map (·.data)

def Hotplug.addTimers (s : Hotplug) (datas : List TimerData) : Hotplug :=
  datas.foldl Hotplug.addTimer s

section Frame

variable (s : Hotplug) (data : TimerData) (id : Nat)

@[simp] theorem addTimer_devMappings : (s.addTimer data).devMappings = s.devMappings := rfl
@[simp] theorem addTimer_netdevMappings : (s.addTimer data).netdevMappings = s.netdevMappings :=
  rfl
@[simp] theorem addTimer_pnetCfgs : (s.addTimer data).pnetCfgs = s.pnetCfgs := rfl
@[simp] theorem addTimer_netifPhys : (s.addTimer data).netifPhys = s.netifPhys := rfl
@[simp] theorem addTimer_retries : (s.addTimer data).retries = s.retries := rfl
@[simp] theorem addTimer_wlanIdx : (s.addTimer data).wlanIdx = s.wlanIdx := rfl
@[simp] theorem addTimer_ethIdx : (s.addTimer data).ethIdx = s.ethIdx := rfl
@[simp] theorem addTimer_timers :
    (s.addTimer data).timers = s.timers ++ [⟨s.nextTimer, data⟩] := rfl
@[simp] theorem addTimer_nextTimer : (s.addTimer data).nextTimer = s.nextTimer + 1 := rfl

@[simp] theorem removeTimer_devMappings : (s.removeTimer id).devMappings = s.devMappings := rfl
@[simp] theorem removeTimer_netdevMappings :
    (s.removeTimer id).netdevMappings = s.netdevMappings := rfl
@[simp] theorem removeTimer_pnetCfgs : (s.removeTimer id).pnetCfgs = s.pnetCfgs := rfl
@[simp] theorem removeTimer_netifPhys : (s.removeTimer id).netifPhys = s.netifPhys := rfl
@[simp] theorem removeTimer_retries : (s.removeTimer id).retries = s.retries := rfl
@[simp] theorem removeTimer_wlanIdx : (s.removeTimer id).wlanIdx = s.wlanIdx := rfl
@[simp] theorem removeTimer_ethIdx : (s.removeTimer id).ethIdx = s.ethIdx := rfl
@[simp] theorem removeTimer_timers : (s.removeTimer id).timers = s.timers.filter (·.id != id) :=
  rfl
@[simp] theorem removeTimer_nextTimer : (s.removeTimer id).nextTimer = s.nextTimer := rfl

theorem findTimer_mem {s : Hotplug} {id : Nat} {data : TimerData}
    (found : s.findTimer id = some data) :
    ∃ timer ∈ s.timers, timer.id = id ∧ timer.data = data := by
  simp only [Hotplug.findTimer, Option.map_eq_some'] at found
  obtain ⟨timer, found, rfl⟩ := found
  exact ⟨timer, List.mem_of_find?_eq_some found, by simpa using List.find?_some found, rfl⟩

@[simp] theorem findTimer_removeTimer : (s.removeTimer id).findTimer id = none := by
  simp only [Hotplug.findTimer, Hotplug.removeTimer, Option.map_eq_none', List.find?_eq_none,
    List.mem_filter]
  rintro timer ⟨-, other⟩
  simpa using other

end Frame

def freshTimers (next : Nat) : List TimerData → List Timer
  | [] => []
  | data :: rest => ⟨next, data⟩ :: freshTimers (next + 1) rest

theorem addTimers_eq (s : Hotplug) (datas : List TimerData) :
    s.addTimers datas = { s with
      timers := s.timers ++ freshTimers s.nextTimer datas
      nextTimer := s.nextTimer + datas.length } := by
  induction datas generalizing s with
  | nil => simp [Hotplug.addTimers, freshTimers]
  | cons data rest ih =>
      rw [Hotplug.addTimers, List.foldl_cons, ← Hotplug.addTimers, ih]
      simp only [Hotplug.addTimer, freshTimers, List.append_assoc, List.singleton_append,
        List.length_cons, Nat.add_assoc, Nat.add_comm 1]

theorem freshTimers_data (next : Nat) (datas : List TimerData) :
    (freshTimers next datas).map (·.data) = datas := by
  induction datas generalizing next with
  | nil => rfl
  | cons data rest ih => simp [freshTimers, ih]

theorem freshTimers_id (next : Nat) (datas : List TimerData) :
    ∀ timer ∈ freshTimers next datas, next ≤ timer.id ∧ timer.id < next + datas.length := by
  induction datas generalizing next with
  | nil => simp [freshTimers]
  | cons data rest ih =>
      intro timer mem
      rcases List.mem_cons.mp mem with rfl | later
      · simp
      · have := ih (next + 1) timer later
        simp only [List.length_cons]
        omega

end Cml

import Cml.Daemon

set_option autoImplicit false

namespace Cml

/-! ## Handles -/

/-- Every armed timer's handle was handed out before the next one. -/
def FreshHandles (s : Hotplug) : Prop :=
  ∀ timer ∈ s.timers, timer.id < s.nextTimer

theorem FreshHandles.addTimer {s : Hotplug} (fresh : FreshHandles s) (data : TimerData) :
    FreshHandles (s.addTimer data) := by
  simp only [FreshHandles, addTimer_timers, addTimer_nextTimer, List.mem_append,
    List.mem_singleton]
  rintro timer (old | rfl)
  · exact Nat.lt_succ_of_lt (fresh timer old)
  · exact Nat.lt_succ_self _

theorem FreshHandles.addTimers {s : Hotplug} (fresh : FreshHandles s) (datas : List TimerData) :
    FreshHandles (s.addTimers datas) := by
  induction datas generalizing s with
  | nil => exact fresh
  | cons data rest ih => exact ih (fresh.addTimer data)

theorem step_fresh (s : Hotplug) (input : Input) (fresh : FreshHandles s) :
    FreshHandles (s.step input).1 := by
  cases input with
  | uevent actions event host =>
      have usb : FreshHandles (hotplugHandleUsbDevice s actions event host).1 := by
        rcases hotplugHandleUsbDevice_cases s actions event host with
          same | ⟨_, _, _, _, same⟩ <;> rw [same]
        · exact fresh
        · apply FreshHandles.addTimers
          exact fresh
      simp only [Hotplug.step, hotplugHandleUeventCb_eq]
      split
      · apply FreshHandles.addTimer
        exact usb
      · exact usb
  | fire id host =>
      have frame := fire_frame s host id
      intro timer armed
      rw [Hotplug.step, frame.nextTimer]
      exact fresh timer (frame.timers.subset armed)
  | registerUsbdevice | unregisterUsbdevice | registerNetdev | unregisterNetdev => exact fresh

theorem Reachable.fresh {s : Hotplug} (reachable : Reachable s) : FreshHandles s := by
  induction reachable with
  | boot => simp [FreshHandles]
  | step input _ ih => exact step_fresh _ input ih

/-! ## The netif timer -/

def netifWaits (event : UeventEvent) (host : Host) : Bool :=
  event.devtype == "wlan" && !host.isWifi event.interface

section Firing

variable (t : Hotplug) (id : Nat)

theorem fire_unarmed (host : Host) (unarmed : t.findTimer id = none) :
    t.fire host id = (t, []) := by
  simp [Hotplug.fire, unarmed]

theorem run_unarmed_fires (unarmed : t.findTimer id = none) (hosts : List Host) :
    t.run (hosts.map (.fire id)) = (t, []) := by
  induction hosts with
  | nil => rfl
  | cons host rest ih => simp [Hotplug.step, fire_unarmed t id host unarmed, ih]

theorem step_netif_fire (event : UeventEvent) (armed : t.findTimer id = some (.netif event))
    (host : Host) : t.step (.fire id host) = hotplugSysfsNetifTimerCb t host id event := by
  simp [Hotplug.step, Hotplug.fire, armed]

theorem run_netif_fires (event : UeventEvent) (armed : t.findTimer id = some (.netif event))
    (hosts : List Host) :
    (t.run (hosts.map (.fire id))).1.findTimer id = some (.netif event) ↔
      ∀ host ∈ hosts, netifWaits event host = true := by
  induction hosts with
  | nil => simp [armed]
  | cons host rest ih =>
      simp only [List.map_cons, run_cons, step_netif_fire t id event armed, List.forall_mem_cons]
      rcases hotplugSysfsNetifTimerCb_cases t host id event with
        ⟨waiting, same⟩ | ⟨settled, same⟩ <;> rw [same]
      · simp only [netifWaits, waiting, true_and]
        exact ih
      · rw [run_unarmed_fires _ id (findTimer_removeTimer _ id) rest]
        simp [netifWaits, settled]

theorem run_netif_settles (event : UeventEvent) (armed : t.findTimer id = some (.netif event))
    (waits : List Host) (settle : Host) (later : List Host)
    (waiting : ∀ host ∈ waits, netifWaits event host = true)
    (settled : netifWaits event settle = false) :
    t.run ((waits ++ settle :: later).map (.fire id)) =
      ((hotplugNetdevMove t settle event).1.removeTimer id,
        (hotplugNetdevMove t settle event).2.2) := by
  induction waits with
  | nil =>
      rcases hotplugSysfsNetifTimerCb_cases t settle id event with ⟨waits, -⟩ | ⟨-, same⟩
      · simp [netifWaits, waits] at settled
      · simp [step_netif_fire t id event armed, same,
          run_unarmed_fires _ id (findTimer_removeTimer _ id) later]
  | cons host rest ih =>
      rcases hotplugSysfsNetifTimerCb_cases t host id event with ⟨-, same⟩ | ⟨moved, -⟩
      · simp only [List.cons_append, List.map_cons, run_cons, step_netif_fire t id event armed,
          same, List.nil_append]
        exact ih fun host listed => waiting host (List.mem_cons_of_mem _ listed)
      · exact absurd (waiting host (List.mem_cons_self _ _)) (by rw [netifWaits, moved]; decide)

end Firing

theorem step_arms_netif (s : Hotplug) (actions : Actions) (event : UeventEvent) (host : Host)
    (fresh : FreshHandles s) (netif : netifAddEvent actions event = true) :
    (s.step (.uevent actions event host)).1.findTimer s.nextTimer = some (.netif event) := by
  have notUsb : usbDeviceEvent event = false := by
    simp only [netifAddEvent, Bool.and_eq_true, beq_iff_eq] at netif
    simp [usbDeviceEvent, netif.1.2, strncmpEq]
  have usb : hotplugHandleUsbDevice s actions event host = (s, [], false) := by
    simp [hotplugHandleUsbDevice, notUsb]
  simp only [Hotplug.step, hotplugHandleUeventCb_eq, usb, netif, ↓reduceIte, Hotplug.findTimer,
    addTimer_timers, List.find?_append]
  rw [List.find?_eq_none.mpr fun timer old => by simpa using (fresh timer old).ne]
  simp

/-- A non-virtual net add arms a timer that stays armed exactly while its firings find a wlan
interface not yet wireless; the first other firing moves the interface and removes the timer. -/
theorem netif_timer_moves_interface_once_settled (s : Hotplug) (reachable : Reachable s)
    (actions : Actions) (event : UeventEvent) (host : Host)
    (netif : netifAddEvent actions event = true) :
    (∀ hosts : List Host,
      ((s.step (.uevent actions event host)).1.run (hosts.map (.fire s.nextTimer))).1.findTimer
          s.nextTimer = some (.netif event) ↔
        ∀ fireHost ∈ hosts, netifWaits event fireHost = true) ∧
    ∀ waits settle later, (∀ fireHost ∈ waits, netifWaits event fireHost = true) →
      netifWaits event settle = false →
      (s.step (.uevent actions event host)).1.run
          ((waits ++ settle :: later).map (.fire s.nextTimer)) =
        ((hotplugNetdevMove (s.step (.uevent actions event host)).1 settle event).1.removeTimer
            s.nextTimer,
          (hotplugNetdevMove (s.step (.uevent actions event host)).1 settle event).2.2) :=
  have armed := step_arms_netif s actions event host reachable.fresh netif
  ⟨run_netif_fires _ _ event armed, fun waits settle later waiting settled =>
    run_netif_settles _ _ event armed waits settle later waiting settled⟩

def s2Mac : Mac := ⟨[2, 0, 0, 0, 0, 1], rfl⟩

def s2Event : UeventEvent where
  subsystem := "net"
  devtype := ""
  devpath := "/devices/pci0/net/eth7"
  devname := ""
  interface := "eth7"
  major := 0
  minor := 0
  usbVendor := 0
  usbProduct := 0

def s2Wlan : UeventEvent := { s2Event with
  devtype := "wlan"
  devpath := "/devices/pci0/net/wlan0"
  interface := "wlan0" }

/-- The system of scenario S2: `eth7` reads back container `2`'s MAC, `2` is booting, every rename
and move succeeds, and sysfs shows no interface as wireless. -/
def s2Host : Host where
  fileExists _ := false
  fileRead _ := none
  isWifi _ := false
  macByIfname ifname := if ifname == "eth7" then some s2Mac else none
  renameIfi _ _ := true
  replaceMember _ _ := true
  c0 := none
  state _ := .booting
  addNetIface _ _ := true

/-- The daemon of scenario S2 after `hotplug_init` in hosted mode: the configuration records hold
the MAC string of container `2`. -/
def s2Boot : Hotplug :=
  Hotplug.boot (fun _ => containerPnetCfgNew "02:00:00:00:00:01" false) [] s2Host true

def s2WifiHost : Host := { s2Host with isWifi := fun _ => true }

theorem netif_timer_moves_interface_once_settled_in_s2 :
    Reachable s2Boot ∧ netifAddEvent ⟨true, false⟩ s2Wlan = true ∧
      (s2Boot.step (.uevent ⟨true, false⟩ s2Wlan s2Host)).1.run
          (([s2Host, s2Host] ++ s2WifiHost :: [s2Host]).map (.fire s2Boot.nextTimer)) =
        ((hotplugNetdevMove (s2Boot.step (.uevent ⟨true, false⟩ s2Wlan s2Host)).1 s2WifiHost
            s2Wlan).1.removeTimer s2Boot.nextTimer,
          (hotplugNetdevMove (s2Boot.step (.uevent ⟨true, false⟩ s2Wlan s2Host)).1 s2WifiHost
            s2Wlan).2.2) :=
  ⟨.boot _ [] s2Host true, by decide,
    (netif_timer_moves_interface_once_settled s2Boot (.boot _ [] s2Host true) ⟨true, false⟩
      s2Wlan s2Host (by decide)).2 [s2Host, s2Host] s2WifiHost [s2Host] (by decide) (by decide)⟩

/-- A wlan interface that sysfs never shows as wireless, as one that vanished before it settled:
no number of firings removes its timer. -/
theorem wlan_timer_outlives_every_bound :
    ¬ ∃ bound, ((s2Boot.step (.uevent ⟨true, false⟩ s2Wlan s2Host)).1.run
      (List.replicate bound (.fire 0 s2Host))).1.findTimer 0 = none := by
  rintro ⟨bound, removed⟩
  have armed : (s2Boot.step (.uevent ⟨true, false⟩ s2Wlan s2Host)).1.findTimer 0 =
      some (.netif s2Wlan) := by decide
  have waits : ∀ host ∈ List.replicate bound s2Host, netifWaits s2Wlan host = true := by
    intro host listed
    rw [List.eq_of_mem_replicate listed]
    decide
  have still := (run_netif_fires _ 0 s2Wlan armed _).mpr waits
  rw [List.map_replicate, removed] at still
  cases still

/-! ## The configuration records of the net table -/

/-- What the configuration record of every net mapping holds: the MAC string the mapping was
registered from, or a name `hotplug_rename_ifi_new` printed over it. -/
def MacKeyed (s : Hotplug) : Prop :=
  ∀ mapping ∈ s.netdevMappings,
    networkStrToMacAddr (s.pnetCfgs mapping.pnetCfg).pnetName = some mapping.mac ∨
      ∃ infixStr idx, (s.pnetCfgs mapping.pnetCfg).pnetName = ifiName infixStr idx

theorem fire_pnetCfgs (s : Hotplug) (host : Host) (id pnetCfg : Nat) :
    (s.fire host id).1.pnetCfgs pnetCfg = s.pnetCfgs pnetCfg ∨
      ∃ infixStr idx, ((s.fire host id).1.pnetCfgs pnetCfg).pnetName = ifiName infixStr idx := by
  rcases fire_cases s host id with same | ⟨data, -, same⟩ | ⟨event, -, same⟩ <;> rw [same]
  · exact .inl rfl
  · rcases hotplugTokenTimerCb_cases s host id data with
      ⟨-, same⟩ | ⟨-, -, same⟩ | ⟨-, -, same⟩ <;> rw [same] <;> exact .inl rfl
  · rcases hotplugSysfsNetifTimerCb_cases s host id event with ⟨-, same⟩ | ⟨-, same⟩ <;>
      rw [same]
    · exact .inl rfl
    · exact hotplugNetdevMove_pnetCfgs s host event pnetCfg

theorem step_macKeyed (s : Hotplug) (input : Input) (keyed : MacKeyed s) :
    MacKeyed (s.step input).1 := by
  cases input with
  | uevent actions event host =>
      obtain ⟨-, netdevs, cfgs, -⟩ := hotplugHandleUeventCb_keeps s host actions event
      simp only [MacKeyed, Hotplug.step, netdevs, cfgs]
      exact keyed
  | fire id host =>
      intro mapping listed
      rw [Hotplug.step, (fire_frame s host id).netdevMappings] at listed
      rcases fire_pnetCfgs s host id mapping.pnetCfg with same | printed
      · simp only [Hotplug.step, same]
        exact keyed mapping listed
      · exact .inr printed
  | registerNetdev container pnetCfg =>
      intro mapping listed
      simp only [Hotplug.step, hotplugRegisterNetdev] at listed ⊢
      split at listed
      · exact keyed mapping listed
      · rename_i registered
        rcases List.mem_append.mp listed with old | fresh
        · exact keyed mapping old
        · obtain rfl := List.mem_singleton.mp fresh
          obtain ⟨parsed, -, rfl⟩ :=
            (hotplugContainerNetdevMappingNew_eq_some _ _ _ _).mp registered
          exact .inl parsed
  | unregisterNetdev container mac =>
      exact fun mapping listed =>
        keyed mapping ((unregisterLast_sublist _ s.netdevMappings).subset listed)
  | registerUsbdevice | unregisterUsbdevice => exact keyed

/-- In every reachable state each net mapping's configuration holds its MAC string or a name
`hotplug_rename_ifi_new` printed: only a move overwrites the shared record. -/
theorem net_records_keep_mac_or_printed_name (s : Hotplug) (reachable : Reachable s) :
    MacKeyed s := by
  induction reachable with
  | boot => simp [MacKeyed]
  | step input _ ih => exact step_macKeyed _ input ih

def s2Moved : List Input :=
  [.registerNetdev ⟨2⟩ 0, .uevent ⟨true, false⟩ s2Event s2Host, .fire 0 s2Host]

theorem net_records_keep_mac_or_printed_name_in_s2 :
    Reachable (s2Boot.run s2Moved).1 ∧ MacKeyed (s2Boot.run s2Moved).1 :=
  have reachable := (Reachable.boot _ [] s2Host true).run s2Moved
  ⟨reachable, net_records_keep_mac_or_printed_name _ reachable⟩

/-- The move writes `cmleth0` into the record the mapping shares: the mapping stays, its record no
longer parses as a MAC, and the same registration now fails. -/
theorem netdev_move_overwrites_mac_string :
    (s2Boot.run s2Moved).1.netdevMappings = [⟨⟨2⟩, 0, s2Mac⟩] ∧
      ((s2Boot.run s2Moved).1.pnetCfgs 0).pnetName = "cmleth0" ∧
      networkStrToMacAddr ((s2Boot.run s2Moved).1.pnetCfgs 0).pnetName = none ∧
      (hotplugRegisterNetdev (s2Boot.run s2Moved).1.pnetCfgs (s2Boot.run s2Moved).1.netdevMappings
        ⟨2⟩ 0).1 = -1 := by
  decide

end Cml

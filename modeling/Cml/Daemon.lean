import Cml.NetdevMove
import Cml.UsbDevice

set_option autoImplicit false

namespace Cml

/-- `retries--` on an `int`: past `INT_MIN` the machine's two's complement wraps to `INT_MAX`. -/
def intDecrement (n : Int) : Int :=
  if n = -2147483648 then 2147483647 else n - 1

/-- `hotplug_token_timer_cb` with the function-static `retries` shared by every token timer: tested
and decremented at each firing, never reset. -/
def hotplugTokenTimerCb (s : Hotplug) (host : Host) (id : Nat) (data : TokenData) :
    Hotplug × List Call :=
  let counted := { s with retries := intDecrement s.retries }
  if 0 > s.retries then (counted.removeTimer id, [])
  else if !host.fileExists data.devname then (counted, [])
  else (counted.removeTimer id, [.tokenAttach data.container])

def netifAddEvent (actions : Actions) (event : UeventEvent) : Bool :=
  actions.add && event.subsystem == "net" && (strstr event.devpath.data "virtual".data).isNone

/-- `hotplug_handle_uevent_cb`: the USB handler, then, for a new physical network interface, its
entry in cmld's list and a repeating timer holding a copy of the event. -/
def hotplugHandleUeventCb (s : Hotplug) (actions : Actions) (event : UeventEvent) (host : Host) :
    Hotplug × List Call :=
  let usb := hotplugHandleUsbDevice s actions event host
  if usb.2.2 then (usb.1, usb.2.1)
  else if netifAddEvent actions event then
    ({ usb.1 with netifPhys := cmldNetifPhysAddByName usb.1.netifPhys event.interface }.addTimer
      (.netif event), usb.2.1)
  else (usb.1, usb.2.1)

/-- The event loop firing the timer with handle `id`: the callback it was armed with, on its data.
A handle that is no longer armed fires nothing. -/
def Hotplug.fire (s : Hotplug) (host : Host) (id : Nat) : Hotplug × List Call :=
  match s.findTimer id with
  | none => (s, [])
  | some (.token data) => hotplugTokenTimerCb s host id data
  | some (.netif event) => hotplugSysfsNetifTimerCb s host id event

/-- What the daemon reacts to after `hotplug_init`: a kernel uevent, a timer firing, and the
registration calls cmld makes for its containers. `host` is the system as the callback finds it. -/
inductive Input where
  | uevent (actions : Actions) (event : UeventEvent) (host : Host)
  | fire (id : Nat) (host : Host)
  | registerUsbdevice (container : Container) (usbdev : Usbdev)
  | unregisterUsbdevice (container : Container) (usbdev : Usbdev)
  | registerNetdev (container : Container) (pnetCfg : Nat)
  | unregisterNetdev (container : Container) (mac : Mac)

def Hotplug.step (s : Hotplug) : Input → Hotplug × List Call
  | .uevent actions event host => hotplugHandleUeventCb s actions event host
  | .fire id host => s.fire host id
  | .registerUsbdevice container usbdev =>
      ({ s with devMappings := (hotplugRegisterUsbdevice s.devMappings container usbdev).2 }, [])
  | .unregisterUsbdevice container usbdev =>
      ({ s with devMappings := (hotplugUnregisterUsbdevice s.devMappings container usbdev).2 }, [])
  | .registerNetdev container pnetCfg =>
      ({ s with
          netdevMappings :=
            (hotplugRegisterNetdev s.pnetCfgs s.netdevMappings container pnetCfg).2 }, [])
  | .unregisterNetdev container mac =>
      ({ s with netdevMappings := (hotplugUnregisterNetdev s.netdevMappings container mac).2 }, [])

def Hotplug.run (s : Hotplug) : List Input → Hotplug × List Call
  | [] => (s, [])
  | input :: rest =>
      let later := (s.step input).1.run rest
      (later.1, (s.step input).2 ++ later.2)

/-- The daemon once `hotplug_init` has returned, over cmld's configuration records and physical
interfaces. -/
def Hotplug.boot (pnetCfgs : Nat → PnetCfg) (netifPhys : List String) (host : Host)
    (hostedMode : Bool) : Hotplug :=
  (hotplugInit (Hotplug.new pnetCfgs netifPhys) host hostedMode).1

/-- The states the daemon reaches. -/
inductive Reachable : Hotplug → Prop where
  | boot (pnetCfgs : Nat → PnetCfg) (netifPhys : List String) (host : Host) (hostedMode : Bool) :
      Reachable (Hotplug.boot pnetCfgs netifPhys host hostedMode)
  | step {s : Hotplug} (input : Input) : Reachable s → Reachable (s.step input).1

section Run

variable (s : Hotplug)

@[simp] theorem run_nil : s.run [] = (s, []) := rfl

@[simp] theorem run_cons (input : Input) (rest : List Input) :
    s.run (input :: rest) =
      (((s.step input).1.run rest).1, (s.step input).2 ++ ((s.step input).1.run rest).2) := rfl

theorem Reachable.run {s : Hotplug} (reachable : Reachable s) (inputs : List Input) :
    Reachable (s.run inputs).1 := by
  induction inputs generalizing s with
  | nil => exact reachable
  | cons input rest ih => exact ih (.step input reachable)

theorem run_calls (inv : Hotplug → Prop) (good : Call → Prop)
    (step : ∀ s input, inv s → inv (s.step input).1)
    (calls : ∀ s input, inv s → ∀ call ∈ (s.step input).2, good call)
    (inputs : List Input) (start : inv s) : ∀ call ∈ (s.run inputs).2, good call := by
  induction inputs generalizing s with
  | nil => simp
  | cons input rest ih =>
      simp only [run_cons, List.mem_append]
      rintro call (here | later)
      · exact calls s input start call here
      · exact ih _ (step s input start) call later

end Run

section Boot

variable (pnetCfgs : Nat → PnetCfg) (netifPhys : List String) (host : Host) (hostedMode : Bool)

theorem boot_keeps : KeepsTables (Hotplug.new pnetCfgs netifPhys)
    (Hotplug.boot pnetCfgs netifPhys host hostedMode) :=
  (hotplugInit_keeps _ host hostedMode).1

@[simp] theorem boot_devMappings :
    (Hotplug.boot pnetCfgs netifPhys host hostedMode).devMappings = [] :=
  (boot_keeps pnetCfgs netifPhys host hostedMode).devMappings

@[simp] theorem boot_netdevMappings :
    (Hotplug.boot pnetCfgs netifPhys host hostedMode).netdevMappings = [] :=
  (boot_keeps pnetCfgs netifPhys host hostedMode).netdevMappings

@[simp] theorem boot_timers : (Hotplug.boot pnetCfgs netifPhys host hostedMode).timers = [] :=
  (boot_keeps pnetCfgs netifPhys host hostedMode).timers

end Boot

section Callbacks

variable (s : Hotplug) (host : Host) (id : Nat)

theorem hotplugTokenTimerCb_cases (data : TokenData) :
    let counted := { s with retries := intDecrement s.retries }
    (s.retries < 0 ∧ hotplugTokenTimerCb s host id data = (counted.removeTimer id, [])) ∨
    (0 ≤ s.retries ∧ host.fileExists data.devname = false ∧
      hotplugTokenTimerCb s host id data = (counted, [])) ∨
    (0 ≤ s.retries ∧ host.fileExists data.devname = true ∧
      hotplugTokenTimerCb s host id data =
        (counted.removeTimer id, [.tokenAttach data.container])) := by
  intro counted
  unfold hotplugTokenTimerCb
  by_cases exhausted : s.retries < 0
  · exact .inl ⟨exhausted, by simp [exhausted]⟩
  · cases node : host.fileExists data.devname
    · exact .inr (.inl ⟨by omega, rfl, by simp [exhausted, node, counted]⟩)
    · exact .inr (.inr ⟨by omega, rfl, by simp [exhausted, node, counted]⟩)

theorem hotplugSysfsNetifTimerCb_cases (event : UeventEvent) :
    ((event.devtype == "wlan" && !host.isWifi event.interface) = true ∧
      hotplugSysfsNetifTimerCb s host id event = (s, [])) ∨
    ((event.devtype == "wlan" && !host.isWifi event.interface) = false ∧
      hotplugSysfsNetifTimerCb s host id event =
        ((hotplugNetdevMove s host event).1.removeTimer id,
          (hotplugNetdevMove s host event).2.2)) := by
  unfold hotplugSysfsNetifTimerCb
  cases waiting : (event.devtype == "wlan" && !host.isWifi event.interface)
  · exact .inr ⟨rfl, by simp [waiting]⟩
  · exact .inl ⟨rfl, by simp [waiting]⟩

theorem hotplugHandleUeventCb_eq (actions : Actions) (event : UeventEvent) :
    hotplugHandleUeventCb s actions event host =
      (if netifAddEvent actions event then
        { (hotplugHandleUsbDevice s actions event host).1 with
            netifPhys := cmldNetifPhysAddByName
              (hotplugHandleUsbDevice s actions event host).1.netifPhys event.interface }.addTimer
          (.netif event)
      else (hotplugHandleUsbDevice s actions event host).1,
        (hotplugHandleUsbDevice s actions event host).2.1) := by
  simp only [hotplugHandleUeventCb, hotplugHandleUsbDevice_result, Bool.false_eq_true, ↓reduceIte]
  split <;> rfl

theorem hotplugHandleUeventCb_keeps (actions : Actions) (event : UeventEvent) :
    (hotplugHandleUeventCb s actions event host).1.devMappings =
        (hotplugHandleUsbDevice s actions event host).1.devMappings ∧
      (hotplugHandleUeventCb s actions event host).1.netdevMappings = s.netdevMappings ∧
      (hotplugHandleUeventCb s actions event host).1.pnetCfgs = s.pnetCfgs ∧
      (hotplugHandleUeventCb s actions event host).1.retries = s.retries := by
  obtain ⟨netdevs, cfgs, retries⟩ := hotplugHandleUsbDevice_keeps s actions event host
  rw [hotplugHandleUeventCb_eq]
  split <;> simp [netdevs, cfgs, retries]

theorem fire_cases :
    s.fire host id = (s, []) ∨
      (∃ data, s.findTimer id = some (.token data) ∧
        s.fire host id = hotplugTokenTimerCb s host id data) ∨
      (∃ event, s.findTimer id = some (.netif event) ∧
        s.fire host id = hotplugSysfsNetifTimerCb s host id event) := by
  unfold Hotplug.fire
  split
  · exact .inl rfl
  · rename_i data found
    exact .inr (.inl ⟨data, found, rfl⟩)
  · rename_i event found
    exact .inr (.inr ⟨event, found, rfl⟩)

end Callbacks

structure FireFrame (s r : Hotplug) : Prop where
  devMappings : r.devMappings = s.devMappings
  netdevMappings : r.netdevMappings = s.netdevMappings
  nextTimer : r.nextTimer = s.nextTimer
  timers : r.timers.Sublist s.timers

theorem FireFrame.refl (s : Hotplug) : FireFrame s s := ⟨rfl, rfl, rfl, .refl _⟩

theorem FireFrame.removeTimer {s r : Hotplug} (keeps : KeepsTables s r) (id : Nat) :
    FireFrame s (r.removeTimer id) :=
  ⟨keeps.devMappings, keeps.netdevMappings, keeps.nextTimer, by simp [keeps.timers]⟩

theorem fire_frame (s : Hotplug) (host : Host) (id : Nat) : FireFrame s (s.fire host id).1 := by
  rcases fire_cases s host id with same | ⟨data, -, same⟩ | ⟨event, -, same⟩ <;> rw [same]
  · exact .refl s
  · rcases hotplugTokenTimerCb_cases s host id data with
      ⟨-, same⟩ | ⟨-, -, same⟩ | ⟨-, -, same⟩ <;> rw [same]
    · exact ⟨rfl, rfl, rfl, List.filter_sublist _⟩
    · exact ⟨rfl, rfl, rfl, .refl _⟩
    · exact ⟨rfl, rfl, rfl, List.filter_sublist _⟩
  · rcases hotplugSysfsNetifTimerCb_cases s host id event with ⟨-, same⟩ | ⟨-, same⟩ <;>
      rw [same]
    · exact .refl s
    · exact .removeTimer (hotplugNetdevMove_keeps s host event) id

theorem fire_calls (s : Hotplug) (host : Host) (id : Nat) :
    ∀ call ∈ (s.fire host id).2,
      call.isDevice = false ∨ ∃ container, call = .tokenAttach container := by
  intro call made
  rcases fire_cases s host id with same | ⟨data, -, same⟩ | ⟨event, -, same⟩ <;>
    rw [same] at made
  · cases made
  · rcases hotplugTokenTimerCb_cases s host id data with
      ⟨-, same⟩ | ⟨-, -, same⟩ | ⟨-, -, same⟩ <;> rw [same] at made
    · cases made
    · cases made
    · exact .inr ⟨_, List.mem_singleton.mp made⟩
  · rcases hotplugSysfsNetifTimerCb_cases s host id event with ⟨-, same⟩ | ⟨-, same⟩ <;>
      rw [same] at made
    · cases made
    · exact .inl (hotplugNetdevMove_calls s host event call made)

end Cml

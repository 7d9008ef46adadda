import Cml.Daemon

set_option autoImplicit false

namespace Cml

def Call.isTokenAttach : Call → Bool
  | .tokenAttach _ => true
  | _ => false

theorem Call.isTokenAttach_of_isDevice {call : Call} (net : call.isDevice = false) :
    call.isTokenAttach = false := by
  cases call <;> simp_all [Call.isDevice, Call.isTokenAttach]

theorem hotplugHandleUsbDevice_no_attach (s : Hotplug) (actions : Actions) (event : UeventEvent)
    (host : Host) : ∀ call ∈ (hotplugHandleUsbDevice s actions event host).2.1,
      call.isTokenAttach = false := by
  intro call made
  rcases hotplugHandleUsbDevice_calls s actions event host call made with
    removed | ⟨serial, added⟩
  · obtain ⟨mapping, -, -, -, rfl⟩ := (mem_usbRemoveLoop event s.devMappings call).mp removed
    split <;> rfl
  · rw [usbAddLoop_calls_eq] at added
    obtain ⟨mapping, -, rfl⟩ := List.mem_map.mp added
    rfl

section Step

variable (s : Hotplug)

theorem step_tokenAttach (input : Input) (container : Container)
    (attached : .tokenAttach container ∈ (s.step input).2) :
    ∃ id host data, input = .fire id host ∧ s.findTimer id = some (.token data) ∧
      data.container = container ∧ 0 ≤ s.retries ∧ host.fileExists data.devname = true := by
  cases input with
  | uevent actions event host =>
      simp only [Hotplug.step, hotplugHandleUeventCb_eq] at attached
      cases (hotplugHandleUsbDevice_no_attach s actions event host _ attached)
  | fire id host =>
      simp only [Hotplug.step] at attached
      rcases fire_cases s host id with same | ⟨data, found, same⟩ | ⟨event, -, same⟩ <;>
        rw [same] at attached
      · cases attached
      · rcases hotplugTokenTimerCb_cases s host id data with
          ⟨-, same⟩ | ⟨-, -, same⟩ | ⟨counter, node, same⟩ <;> rw [same] at attached
        · cases attached
        · cases attached
        · obtain rfl := Call.tokenAttach.inj (List.mem_singleton.mp attached)
          exact ⟨id, host, data, rfl, found, rfl, counter, node⟩
      · rcases hotplugSysfsNetifTimerCb_cases s host id event with
          ⟨-, same⟩ | ⟨-, same⟩ <;> rw [same] at attached
        · cases attached
        · cases Call.isTokenAttach_of_isDevice (hotplugNetdevMove_calls s host event _ attached)
  | registerUsbdevice | unregisterUsbdevice | registerNetdev | unregisterNetdev =>
      cases attached

end Step

def s1Token : Usbdev := hotplugUsbdevNew .token 0x1050 0x0407 "0001" false

def s1Event : UeventEvent where
  subsystem := "usb"
  devtype := "usb_device"
  devpath := "/devices/pci0/usb1/1-2"
  devname := "bus/usb/001/003"
  interface := ""
  major := 189
  minor := 3
  usbVendor := 0x1050
  usbProduct := 0x0407

/-- The system of scenario S1: the device's serial file holds `0001` and a newline, and the token's
node exists when `node` is set. -/
def s1Host (node : Bool) : Host where
  fileExists path := path == "/sys//devices/pci0/usb1/1-2/serial" ||
    (node && path == "/dev/bus/usb/001/003")
  fileRead path := if path == "/sys//devices/pci0/usb1/1-2/serial" then some "0001\n" else none
  isWifi _ := false
  macByIfname _ := none
  renameIfi _ _ := false
  replaceMember _ _ := false
  c0 := none
  state _ := .running
  addNetIface _ _ := false

/-- The daemon of scenario S1 after `hotplug_init` in hosted mode. -/
def s1Boot : Hotplug := Hotplug.boot (fun _ => containerPnetCfgNew "" false) [] (s1Host false) true

def s1Exhausted : List Input :=
  [.registerUsbdevice ⟨1⟩ s1Token, .uevent ⟨true, false⟩ s1Event (s1Host false)] ++
    List.replicate 12 (.fire 0 (s1Host false)) ++ [.uevent ⟨true, false⟩ s1Event (s1Host false)]

/-- The second plug's timer finds the node at its first firing, and yet it gives up without
attaching: the first timer used up the shared counter. -/
theorem token_timer_gives_up_after_shared_budget :
    (s1Boot.run s1Exhausted).1.findTimer 1 = some (.token ⟨⟨1⟩, "/dev/bus/usb/001/003"⟩) ∧
      (s1Host true).fileExists "/dev/bus/usb/001/003" = true ∧
      ((s1Boot.run s1Exhausted).1.step (.fire 1 (s1Host true))).2 = [] ∧
      ((s1Boot.run s1Exhausted).1.step (.fire 1 (s1Host true))).1.findTimer 1 = none := by
  decide

def s1Unplugged : List Input :=
  [.registerUsbdevice ⟨1⟩ s1Token, .uevent ⟨true, false⟩ s1Event (s1Host false),
    .uevent ⟨false, true⟩ s1Event (s1Host false), .unregisterUsbdevice ⟨1⟩ s1Token]

/-- After the remove (a detach) and the unregistration, container `1` has no mapping left, and yet
the timer armed by the add attaches the token to it once the node is there. -/
theorem token_attached_after_remove_and_unregister :
    (s1Boot.run s1Unplugged).2 = [.deviceAllow ⟨1⟩ 'c' 189 3 false, .tokenDetach ⟨1⟩] ∧
      (s1Boot.run s1Unplugged).1.devMappings = [] ∧
      ((s1Boot.run s1Unplugged).1.step (.fire 0 (s1Host true))).2 = [.tokenAttach ⟨1⟩] := by
  decide

/-- The USB add at which a token timer with `data` is armed: an add uevent whose serial was read,
at which a registered token mapping of the data's container matched the device. -/
def TokenArmedBy (s : Hotplug) (input : Input) (data : TokenData) : Prop :=
  ∃ actions event host serial, input = .uevent actions event host ∧ actions.add = true ∧
    usbDeviceEvent event = true ∧ usbAddSerial host event.devpath = some serial ∧
    data.devname = tokenDevname event.devname ∧
    ∃ mapping ∈ s.devMappings, mapping.container = data.container ∧
      mapping.usbdev.type = .token ∧ usbAddMatches event.usbVendor event.usbProduct serial mapping

theorem usbAddLoop_token_origin (event : UeventEvent) (serial : String) (list : List DevMapping)
    (data : TokenData) (armed : data ∈ (usbAddLoop event serial list).2.1) :
    data.devname = tokenDevname event.devname ∧
      ∃ mapping ∈ list, mapping.container = data.container ∧ mapping.usbdev.type = .token ∧
        usbAddMatches event.usbVendor event.usbProduct serial mapping := by
  simp only [usbAddLoop_tokens, List.mem_flatMap, usbAddMapping_tokens] at armed
  obtain ⟨mapping, listed, made⟩ := armed
  split_ifs at made with hit
  · obtain rfl := List.mem_singleton.mp made
    exact ⟨rfl, mapping, listed, rfl, hit.2, hit.1⟩
  · cases made

section Arming

variable (s : Hotplug)

theorem step_token_timer (input : Input) (timer : Timer) (data : TokenData)
    (armed : timer ∈ (s.step input).1.timers) (token : timer.data = .token data) :
    timer ∈ s.timers ∨ TokenArmedBy s input data := by
  cases input with
  | uevent actions event host =>
      have usb : timer ∈ (hotplugHandleUsbDevice s actions event host).1.timers := by
        simp only [Hotplug.step, hotplugHandleUeventCb_eq] at armed
        split at armed
        · simp only [addTimer_timers, List.mem_append, List.mem_singleton] at armed
          rcases armed with armed | rfl
          · exact armed
          · cases token
        · exact armed
      rcases hotplugHandleUsbDevice_cases s actions event host with same | ⟨serial, usbEvent, add,
        read, same⟩ <;> rw [same] at usb
      · exact .inl usb
      · simp only [addTimers_eq, List.mem_append] at usb
        rcases usb with old | fresh
        · exact .inl old
        · have listed : timer.data ∈ (freshTimers s.nextTimer
              (((usbAddLoop event serial s.devMappings).2.1).map .token)).map (·.data) :=
            List.mem_map_of_mem (·.data) fresh
          rw [freshTimers_data, token, List.mem_map] at listed
          obtain ⟨data', made, same⟩ := listed
          cases same
          obtain ⟨devname, origin⟩ :=
            usbAddLoop_token_origin event serial s.devMappings data made
          exact .inr ⟨actions, event, host, serial, rfl, add, usbEvent, read, devname, origin⟩
  | fire id host => exact .inl ((fire_frame s host id).timers.subset armed)
  | registerUsbdevice | unregisterUsbdevice | registerNetdev | unregisterNetdev =>
      exact .inl armed

theorem run_token_timer (inputs : List Input) (timer : Timer) (data : TokenData)
    (armed : timer ∈ (s.run inputs).1.timers) (token : timer.data = .token data) :
    timer ∈ s.timers ∨ ∃ earlier add later, inputs = earlier ++ add :: later ∧
      TokenArmedBy (s.run earlier).1 add data := by
  induction inputs generalizing s with
  | nil => exact .inl armed
  | cons input rest ih =>
      rcases ih (s.step input).1 armed with here | ⟨earlier, add, later, split, origin⟩
      · rcases step_token_timer s input timer data here token with old | origin
        · exact .inl old
        · exact .inr ⟨[], input, rest, rfl, origin⟩
      · exact .inr ⟨input :: earlier, add, later, by rw [split, List.cons_append], origin⟩

end Arming

/-- A token is attached only by a timer a USB add armed for a matching registered token mapping,
with the node present and the counter not negative; nothing rechecks the table or removes. -/
theorem token_attach_traces_to_arming_add (pnetCfgs : Nat → PnetCfg) (netifPhys : List String)
    (host : Host) (hostedMode : Bool) (before : List Input) (input : Input) (container : Container)
    (attached : .tokenAttach container ∈
      (((Hotplug.boot pnetCfgs netifPhys host hostedMode).run before).1.step input).2) :
    ∃ id fireHost data, input = .fire id fireHost ∧
      ((Hotplug.boot pnetCfgs netifPhys host hostedMode).run before).1.findTimer id =
        some (.token data) ∧
      data.container = container ∧
      0 ≤ ((Hotplug.boot pnetCfgs netifPhys host hostedMode).run before).1.retries ∧
      fireHost.fileExists data.devname = true ∧
      ∃ earlier add later, before = earlier ++ add :: later ∧
        TokenArmedBy ((Hotplug.boot pnetCfgs netifPhys host hostedMode).run earlier).1 add data := by
  obtain ⟨id, fireHost, data, rfl, found, owner, counter, node⟩ :=
    step_tokenAttach _ input container attached
  obtain ⟨timer, armed, -, token⟩ := findTimer_mem found
  refine ⟨id, fireHost, data, rfl, found, owner, counter, node, ?_⟩
  rcases run_token_timer _ before timer data armed token with old | origin
  · simp at old
  · exact origin

theorem token_attach_traces_to_arming_add_in_s1 :
    .tokenAttach ⟨1⟩ ∈ ((s1Boot.run s1Unplugged).1.step (.fire 0 (s1Host true))).2 ∧
      ∃ id fireHost data, Input.fire 0 (s1Host true) = .fire id fireHost ∧
        (s1Boot.run s1Unplugged).1.findTimer id = some (.token data) ∧ data.container = ⟨1⟩ ∧
        0 ≤ (s1Boot.run s1Unplugged).1.retries ∧ fireHost.fileExists data.devname = true ∧
        ∃ earlier add later, s1Unplugged = earlier ++ add :: later ∧
          TokenArmedBy (s1Boot.run earlier).1 add data :=
  ⟨by decide, token_attach_traces_to_arming_add _ _ _ _ s1Unplugged _ ⟨1⟩ (by decide)⟩

end Cml

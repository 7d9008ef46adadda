import Cml.State

set_option autoImplicit false

namespace Cml

/-- The serial the add path of `hotplug_handle_usb_device` compares, from the content of the
sysfs file: refused when there is none or it is empty, one trailing newline cut. -/
def usbSerialOf : Option String → Option String
  | none => none
  | some serial =>
      if serial.length < 1 then none
      else if serial.data.getLast? = some '\n' then some ⟨serial.data.dropLast⟩
      else some serial

def usbAddSerial (host : Host) (devpath : String) : Option String :=
  let serialPath := "/sys/" ++ devpath ++ "/serial"
  usbSerialOf (if host.fileExists serialPath then host.fileRead serialPath else none)

def usbAddMatches (vendor product : UInt16) (serial : String) (mapping : DevMapping) : Bool :=
  mapping.usbdev.idVendor == vendor && mapping.usbdev.idProduct == product &&
    mapping.usbdev.iSerial == serial

def tokenDevname (devname : String) : String :=
  (if strncmpEq "/dev/" devname 4 then "/" else "/dev/") ++ devname

/-- One turn of the add loop: a matching mapping is bound to the event's node, a token mapping
arms a timer, and the node is allowed with the mapping's own `assign`. -/
def usbAddMapping (event : UeventEvent) (serial : String) (mapping : DevMapping) :
    DevMapping × List TokenData × List Call :=
  if usbAddMatches event.usbVendor event.usbProduct serial mapping then
    let bound := { mapping with
      usbdev := { mapping.usbdev with major := event.major, minor := event.minor } }
    (bound,
      if bound.usbdev.type = .token then [⟨bound.container, tokenDevname event.devname⟩]
      else [],
      [.deviceAllow bound.container 'c' bound.usbdev.major bound.usbdev.minor bound.assign])
  else (mapping, [], [])

def usbAddLoop (event : UeventEvent) (serial : String) :
    List DevMapping → List DevMapping × List TokenData × List Call
  | [] => ([], [], [])
  | mapping :: rest =>
      let here := usbAddMapping event serial mapping
      let later := usbAddLoop event serial rest
      (here.1 :: later.1, here.2.1 ++ later.2.1, here.2.2 ++ later.2.2)

/-- One turn of the remove loop: a mapping bound to the event's node is detached if it is a
token and denied otherwise. -/
def usbRemoveMapping (event : UeventEvent) (mapping : DevMapping) : List Call :=
  if event.major == mapping.usbdev.major && event.minor == mapping.usbdev.minor then
    if mapping.usbdev.type = .token then [.tokenDetach mapping.container]
    else [.deviceDeny mapping.container 'c' mapping.usbdev.major mapping.usbdev.minor]
  else []

def usbRemoveLoop (event : UeventEvent) (list : List DevMapping) : List Call :=
  list.flatMap (usbRemoveMapping event)

def usbDeviceEvent (event : UeventEvent) : Bool :=
  strncmpEq event.subsystem "usb" 3 && strncmpEq event.devtype "usb_device" 10

/-- `hotplug_handle_usb_device` on the daemon, with the calls it makes and its result, `false`
on every path. -/
def hotplugHandleUsbDevice (s : Hotplug) (actions : Actions) (event : UeventEvent)
    (host : Host) : Hotplug × List Call × Bool :=
  if !usbDeviceEvent event then
    (s, [], false)
  else
    let removed := if actions.remove then usbRemoveLoop event s.devMappings else []
    if actions.add then
      match usbAddSerial host event.devpath with
      | none => (s, removed, false)
      | some serial =>
          let added := usbAddLoop event serial s.devMappings
          ({ s with devMappings := added.1 }.addTimers (added.2.1.map .token),
            removed ++ added.2.2, false)
    else (s, removed, false)

section Loop

variable (event : UeventEvent) (serial : String)

theorem usbAddLoop_mappings (list : List DevMapping) :
    (usbAddLoop event serial list).1 = list.map fun m => (usbAddMapping event serial m).1 := by
  induction list with
  | nil => rfl
  | cons mapping rest ih => simp [usbAddLoop, ih]

theorem usbAddLoop_tokens (list : List DevMapping) :
    (usbAddLoop event serial list).2.1 =
      list.flatMap fun m => (usbAddMapping event serial m).2.1 := by
  induction list with
  | nil => rfl
  | cons mapping rest ih => simp [usbAddLoop, ih]

theorem usbAddLoop_calls (list : List DevMapping) :
    (usbAddLoop event serial list).2.2 =
      list.flatMap fun m => (usbAddMapping event serial m).2.2 := by
  induction list with
  | nil => rfl
  | cons mapping rest ih => simp [usbAddLoop, ih]

theorem usbAddMapping_calls (mapping : DevMapping) :
    (usbAddMapping event serial mapping).2.2 =
      if usbAddMatches event.usbVendor event.usbProduct serial mapping then
        [.deviceAllow mapping.container 'c' event.major event.minor mapping.assign]
      else [] := by
  unfold usbAddMapping
  split <;> rfl

theorem usbAddLoop_calls_eq (list : List DevMapping) :
    (usbAddLoop event serial list).2.2 =
      (list.filter (usbAddMatches event.usbVendor event.usbProduct serial)).map
        fun m => .deviceAllow m.container 'c' event.major event.minor m.assign := by
  rw [usbAddLoop_calls]
  induction list with
  | nil => rfl
  | cons mapping rest ih =>
      rw [List.flatMap_cons, usbAddMapping_calls, ih]
      by_cases hit : usbAddMatches event.usbVendor event.usbProduct serial mapping = true <;>
        simp [hit]

theorem usbAddMapping_bound (mapping : DevMapping) :
    (usbAddMapping event serial mapping).1 =
      if usbAddMatches event.usbVendor event.usbProduct serial mapping then
        { mapping with usbdev := { mapping.usbdev with major := event.major,
                                                       minor := event.minor } }
      else mapping := by
  unfold usbAddMapping
  split <;> rfl

theorem usbAddMapping_tokens (mapping : DevMapping) :
    (usbAddMapping event serial mapping).2.1 =
      if usbAddMatches event.usbVendor event.usbProduct serial mapping ∧
          mapping.usbdev.type = .token then
        [⟨mapping.container, tokenDevname event.devname⟩]
      else [] := by
  unfold usbAddMapping
  by_cases hit : usbAddMatches event.usbVendor event.usbProduct serial mapping = true <;>
    simp [hit]

theorem mem_usbRemoveLoop (list : List DevMapping) (call : Call) :
    call ∈ usbRemoveLoop event list ↔ ∃ mapping ∈ list,
      event.major = mapping.usbdev.major ∧ event.minor = mapping.usbdev.minor ∧
      call = if mapping.usbdev.type = .token then .tokenDetach mapping.container
        else .deviceDeny mapping.container 'c' mapping.usbdev.major mapping.usbdev.minor := by
  simp only [usbRemoveLoop, List.mem_flatMap, usbRemoveMapping, Bool.and_eq_true, beq_iff_eq]
  refine exists_congr fun mapping => and_congr_right fun _ => ?_
  by_cases bound : event.major = mapping.usbdev.major ∧ event.minor = mapping.usbdev.minor
  · rw [if_pos bound]
    split_ifs <;> simp [bound]
  · rw [if_neg bound]
    simp only [List.not_mem_nil, false_iff, not_and]
    exact fun major minor => absurd ⟨major, minor⟩ bound

end Loop

section Handle

variable (s : Hotplug) (actions : Actions) (event : UeventEvent) (host : Host)

theorem hotplugHandleUsbDevice_cases :
    let removed :=
      if usbDeviceEvent event && actions.remove then usbRemoveLoop event s.devMappings else []
    hotplugHandleUsbDevice s actions event host = (s, removed, false) ∨
    ∃ serial, usbDeviceEvent event = true ∧ actions.add = true ∧
      usbAddSerial host event.devpath = some serial ∧
      hotplugHandleUsbDevice s actions event host =
        ({ s with devMappings := (usbAddLoop event serial s.devMappings).1 }.addTimers
            ((usbAddLoop event serial s.devMappings).2.1.map .token),
          removed ++ (usbAddLoop event serial s.devMappings).2.2, false) := by
  intro removed
  unfold hotplugHandleUsbDevice
  cases usb : usbDeviceEvent event
  · exact .inl (by simp [removed, usb])
  · cases add : actions.add
    · exact .inl (by simp [removed, usb, add])
    · cases read : usbAddSerial host event.devpath with
      | none => exact .inl (by simp [removed, usb, add, read])
      | some serial => exact .inr ⟨serial, rfl, rfl, rfl, by simp [removed, usb, add, read]⟩

theorem hotplugHandleUsbDevice_result :
    (hotplugHandleUsbDevice s actions event host).2.2 = false := by
  rcases hotplugHandleUsbDevice_cases s actions event host with same | ⟨_, _, _, _, same⟩ <;>
    rw [same]

theorem hotplugHandleUsbDevice_calls (call : Call)
    (made : call ∈ (hotplugHandleUsbDevice s actions event host).2.1) :
    call ∈ usbRemoveLoop event s.devMappings ∨
      ∃ serial, call ∈ (usbAddLoop event serial s.devMappings).2.2 := by
  rcases hotplugHandleUsbDevice_cases s actions event host with
    same | ⟨serial, -, -, -, same⟩ <;> rw [same] at made
  · split at made
    · exact .inl made
    · cases made
  · rcases List.mem_append.mp made with made | made
    · split at made
      · exact .inl made
      · cases made
    · exact .inr ⟨serial, made⟩

theorem hotplugHandleUsbDevice_keeps :
    (hotplugHandleUsbDevice s actions event host).1.netdevMappings = s.netdevMappings ∧
      (hotplugHandleUsbDevice s actions event host).1.pnetCfgs = s.pnetCfgs ∧
      (hotplugHandleUsbDevice s actions event host).1.retries = s.retries := by
  rcases hotplugHandleUsbDevice_cases s actions event host with same | ⟨_, _, _, _, same⟩ <;>
    simp [same, addTimers_eq]

end Handle

end Cml

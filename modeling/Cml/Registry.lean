import Cml.Daemon

set_option autoImplicit false

namespace Cml

/-! # The registration tables refine a registry

What cmld asks of the two mapping tables is a registry of its containers' devices: a registration
adds an entry at the end, an unregistration takes back the last entry with its key, and nothing
else adds, drops, reorders or changes an entry. `hotplug_handle_usb_device` also writes into the
USB table the node a device was last seen at; the registry forgets that node. The registry is
stated here on its own terms, and every turn of the daemon is shown to be one turn of it. -/

/-! ## Removing the last match -/

section EraseLast

variable {α : Type} (p : α → Bool)

def eraseLast (list : List α) : List α :=
  (list.reverse.eraseP p).reverse

theorem eraseLast_append_singleton (list : List α) (a : α) :
    eraseLast p (list ++ [a]) = if p a then list else eraseLast p list ++ [a] := by
  by_cases hit : p a <;> simp [eraseLast, List.eraseP_cons, hit]

theorem lastMatch_append_singleton (list : List α) (a : α) :
    ∀ index found, lastMatch p (list ++ [a]) index found =
      if p a then some (index + list.length) else lastMatch p list index found := by
  induction list with
  | nil => simp [lastMatch]
  | cons b rest ih =>
      intro index found
      rw [List.cons_append, lastMatch, ih, lastMatch, List.length_cons, Nat.add_assoc,
        Nat.add_comm 1]

theorem lastMatch_lt (list : List α) (index : Nat)
    (found : lastMatch p list 0 none = some index) : index < list.length := by
  induction list using List.reverseRecOn generalizing index with
  | nil => cases found
  | append_singleton rest a ih =>
      rw [lastMatch_append_singleton] at found
      split at found
      · cases found
        simp
      · exact Nat.lt_of_lt_of_le (ih index found) (by simp)

theorem unregisterLast_eq (list : List α) :
    unregisterLast p list = (if list.any p then 0 else -1, eraseLast p list) := by
  induction list using List.reverseRecOn with
  | nil => rfl
  | append_singleton rest a ih =>
      by_cases hit : p a
      · simp [unregisterLast_append p rest a hit, eraseLast_append_singleton, hit]
      · rw [eraseLast_append_singleton, if_neg hit, List.any_append]
        unfold unregisterLast at ih ⊢
        rw [lastMatch_append_singleton, if_neg hit]
        cases found : lastMatch p rest 0 none with
        | none =>
            simp only [found, Prod.mk.injEq] at ih ⊢
            have miss : rest.any p = false := by
              cases any : rest.any p
              · rfl
              · simp [any] at ih
            simp [miss, hit, ← ih.2]
        | some index =>
            simp only [found, Prod.mk.injEq] at ih ⊢
            have hits : rest.any p = true := by
              cases any : rest.any p
              · simp [any] at ih
              · rfl
            rw [List.eraseIdx_append_of_lt_length (lastMatch_lt p rest index found)]
            simp [hits, ih.2]

end EraseLast

/-! ## The registry -/

/-- A device as cmld registers it for a container, without the node a uevent binds it to. -/
structure UsbRegistration where
  container : Container
  iSerial : String
  idVendor : UInt16
  idProduct : UInt16
  assign : Bool
  type : UsbdevType
deriving DecidableEq, Repr

def UsbRegistration.ofUsbdev (container : Container) (usbdev : Usbdev) : UsbRegistration :=
  ⟨container, usbdev.iSerial, usbdev.idVendor, usbdev.idProduct, usbdev.assign, usbdev.type⟩

def DevMapping.registration (mapping : DevMapping) : UsbRegistration :=
  .ofUsbdev mapping.container mapping.usbdev

def UsbRegistration.keyMatches (container : Container) (usbdev : Usbdev)
    (entry : UsbRegistration) : Bool :=
  entry.container == container && entry.idVendor == usbdev.idVendor &&
    entry.idProduct == usbdev.idProduct && entry.iSerial == usbdev.iSerial

/-- The registry the two tables implement: the USB registrations and the net mappings in
effect, oldest first. -/
structure Registry where
  usb : List UsbRegistration
  net : List NetdevMapping
deriving DecidableEq, Repr

/-- What a turn does to the USB registrations: a registration appends, an unregistration takes
back the last entry with its key, and every other turn leaves them. -/
def Registry.usbStep (usb : List UsbRegistration) : Input → List UsbRegistration
  | .registerUsbdevice container usbdev => usb ++ [.ofUsbdev container usbdev]
  | .unregisterUsbdevice container usbdev =>
      eraseLast (UsbRegistration.keyMatches container usbdev) usb
  | _ => usb

/-- What a turn does to the net mappings: a registration adds the MAC its record parses to when it
runs, nothing if it does not parse. -/
def Registry.netStep (cfgs : Nat → PnetCfg) (net : List NetdevMapping) :
    Input → List NetdevMapping
  | .registerNetdev container pnetCfg =>
      match networkStrToMacAddr (cfgs pnetCfg).pnetName with
      | some mac => net ++ [⟨container, pnetCfg, mac⟩]
      | none => net
  | .unregisterNetdev container mac =>
      eraseLast (fun mapping => mapping.container == container && mapping.mac == mac) net
  | _ => net

def Registry.step (r : Registry) (cfgs : Nat → PnetCfg) (input : Input) : Registry :=
  ⟨usbStep r.usb input, netStep cfgs r.net input⟩

def Hotplug.registry (s : Hotplug) : Registry :=
  ⟨s.devMappings.map DevMapping.registration, s.netdevMappings⟩

/-! ## Refinement -/

section Refinement

variable (s : Hotplug)

theorem eraseLast_map {α β : Type} (f : α → β) (p : β → Bool) (list : List α) :
    (eraseLast (p ∘ f) list).map f = eraseLast p (list.map f) := by
  simp only [eraseLast, ← List.map_reverse, List.eraseP_map]

@[simp] theorem registration_usbAddMapping (event : UeventEvent) (serial : String)
    (mapping : DevMapping) :
    (usbAddMapping event serial mapping).1.registration = mapping.registration := by
  rw [usbAddMapping_bound]
  split <;> rfl

theorem hotplugHandleUsbDevice_registry (actions : Actions) (event : UeventEvent) (host : Host) :
    (hotplugHandleUsbDevice s actions event host).1.devMappings.map DevMapping.registration =
      s.devMappings.map DevMapping.registration := by
  rcases hotplugHandleUsbDevice_cases s actions event host with
    same | ⟨serial, -, -, -, same⟩ <;> rw [same]
  simp [addTimers_eq, usbAddLoop_mappings, Function.comp_def]

theorem step_registry (input : Input) :
    (s.step input).1.registry = s.registry.step s.pnetCfgs input := by
  cases input with
  | uevent actions event host =>
      obtain ⟨usb, net, -⟩ := hotplugHandleUeventCb_keeps s host actions event
      simp only [Hotplug.registry, Registry.step, Registry.usbStep, Registry.netStep,
        Hotplug.step, usb, net, hotplugHandleUsbDevice_registry]
  | fire id host =>
      have frame := fire_frame s host id
      simp only [Hotplug.registry, Registry.step, Registry.usbStep, Registry.netStep,
        Hotplug.step, frame.devMappings, frame.netdevMappings]
  | registerUsbdevice container usbdev => simp [Hotplug.registry, Registry.step,
      Registry.usbStep, Registry.netStep, Hotplug.step, hotplugRegisterUsbdevice,
      DevMapping.registration]
  | unregisterUsbdevice container usbdev =>
      simp only [Hotplug.registry, Registry.step, Registry.usbStep, Registry.netStep,
        Hotplug.step, hotplugUnregisterUsbdevice, unregisterLast_eq, ← eraseLast_map]
      rfl
  | registerNetdev container pnetCfg =>
      simp only [Hotplug.registry, Registry.step, Registry.usbStep, Registry.netStep,
        Hotplug.step, hotplugRegisterNetdev, hotplugContainerNetdevMappingNew]
      cases networkStrToMacAddr (s.pnetCfgs pnetCfg).pnetName <;> rfl
  | unregisterNetdev container mac =>
      simp only [Hotplug.registry, Registry.step, Registry.usbStep, Registry.netStep,
        Hotplug.step, hotplugUnregisterNetdev, unregisterLast_eq]
      rfl

theorem run_registry_usb (inputs : List Input) :
    (s.run inputs).1.registry.usb = inputs.foldl Registry.usbStep s.registry.usb := by
  induction inputs generalizing s with
  | nil => rfl
  | cons input rest ih => rw [run_cons, ih, List.foldl_cons, step_registry]; rfl

def Input.isNetRegistration : Input → Bool
  | .registerNetdev .. | .unregisterNetdev .. => true
  | _ => false

theorem run_netdevMappings (inputs : List Input)
    (other : ∀ input ∈ inputs, input.isNetRegistration = false) :
    (s.run inputs).1.netdevMappings = s.netdevMappings := by
  induction inputs generalizing s with
  | nil => rfl
  | cons input rest ih =>
      have kept : (s.step input).1.netdevMappings = s.netdevMappings := by
        have net := congrArg Registry.net (step_registry s input)
        have notNet := other input (List.mem_cons_self _ _)
        cases input <;> first | exact net | cases notNet
      rw [run_cons, ih _ fun input mem => other input (List.mem_cons_of_mem _ mem), kept]

end Refinement

/-- The daemon's tables implement the registry: each turn is one registry turn, and over any run the
USB table, nodes forgotten, is the registry folded over the run's USB registrations. -/
theorem daemon_refines_registry (s : Hotplug) :
    (∀ input, (s.step input).1.registry = s.registry.step s.pnetCfgs input) ∧
      (∀ inputs, (s.run inputs).1.registry.usb = inputs.foldl Registry.usbStep s.registry.usb) ∧
      ∀ inputs, (∀ input ∈ inputs, input.isNetRegistration = false) →
        (s.run inputs).1.netdevMappings = s.netdevMappings :=
  ⟨step_registry s, run_registry_usb s, run_netdevMappings s⟩

end Cml

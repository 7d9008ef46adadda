import Cml.TokenTimer

set_option autoImplicit false

namespace Cml

def Call.isExclusiveAllow : Call → Bool
  | .deviceAllow _ _ _ _ assign => assign
  | _ => false

def SharedMappings (s : Hotplug) : Prop :=
  ∀ mapping ∈ s.devMappings, mapping.assign = false

theorem usbAddMapping_assign (event : UeventEvent) (serial : String) (mapping : DevMapping) :
    (usbAddMapping event serial mapping).1.assign = mapping.assign := by
  rw [usbAddMapping_bound]
  split <;> rfl

theorem hotplugHandleUsbDevice_shared (s : Hotplug) (actions : Actions) (event : UeventEvent)
    (host : Host) (shared : SharedMappings s) :
    SharedMappings (hotplugHandleUsbDevice s actions event host).1 ∧
      ∀ call ∈ (hotplugHandleUsbDevice s actions event host).2.1,
        call.isExclusiveAllow = false := by
  refine ⟨?_, fun call made => ?_⟩
  · rcases hotplugHandleUsbDevice_cases s actions event host with
      same | ⟨serial, -, -, -, same⟩ <;> rw [same]
    · exact shared
    · simp only [SharedMappings, addTimers_eq, usbAddLoop_mappings, List.mem_map]
      rintro _ ⟨mapping, listed, rfl⟩
      rw [usbAddMapping_assign]
      exact shared mapping listed
  · rcases hotplugHandleUsbDevice_calls s actions event host call made with
      removed | ⟨serial, added⟩
    · obtain ⟨mapping, -, -, -, rfl⟩ := (mem_usbRemoveLoop event s.devMappings call).mp removed
      split <;> rfl
    · rw [usbAddLoop_calls_eq] at added
      obtain ⟨mapping, listed, rfl⟩ := List.mem_map.mp added
      exact shared mapping (List.mem_filter.mp listed).1

theorem step_shared (s : Hotplug) (input : Input) (shared : SharedMappings s) :
    SharedMappings (s.step input).1 := by
  cases input with
  | uevent actions event host =>
      simp only [SharedMappings, Hotplug.step, (hotplugHandleUeventCb_keeps s host actions event).1]
      exact (hotplugHandleUsbDevice_shared s actions event host shared).1
  | fire id host =>
      simp only [SharedMappings, Hotplug.step, (fire_frame s host id).devMappings]
      exact shared
  | registerUsbdevice container usbdev =>
      simp only [SharedMappings, Hotplug.step, hotplugRegisterUsbdevice, List.mem_append,
        List.mem_singleton]
      rintro mapping (listed | rfl)
      · exact shared mapping listed
      · rfl
  | unregisterUsbdevice container usbdev =>
      exact fun mapping listed =>
        shared mapping ((unregisterLast_sublist _ s.devMappings).subset listed)
  | registerNetdev | unregisterNetdev => exact shared

theorem step_shared_calls (s : Hotplug) (input : Input) (shared : SharedMappings s) :
    ∀ call ∈ (s.step input).2, call.isExclusiveAllow = false := by
  cases input with
  | uevent actions event host =>
      simp only [Hotplug.step, hotplugHandleUeventCb_eq]
      exact (hotplugHandleUsbDevice_shared s actions event host shared).2
  | fire id host =>
      intro call made
      rcases fire_calls s host id call made with net | ⟨container, rfl⟩
      · cases call <;> simp_all [Call.isDevice, Call.isExclusiveAllow]
      · rfl
  | registerUsbdevice | unregisterUsbdevice | registerNetdev | unregisterNetdev =>
      intro call made
      cases made

/-- The daemon never allows a device in exclusive mode: every `container_device_allow` of every run
passes `assign = false`, whatever the registrations asked for. -/
theorem boot_run_allows_shared (pnetCfgs : Nat → PnetCfg) (netifPhys : List String) (host : Host)
    (hostedMode : Bool) (inputs : List Input) :
    ∀ call ∈ ((Hotplug.boot pnetCfgs netifPhys host hostedMode).run inputs).2,
      call.isExclusiveAllow = false :=
  run_calls _ SharedMappings _ step_shared step_shared_calls inputs (by simp [SharedMappings])

def s1Assigned : Usbdev := hotplugUsbdevNew .generic 0x1050 0x0407 "0001" true

theorem boot_run_allows_shared_in_s1 :
    Call.deviceAllow ⟨1⟩ 'c' 189 3 false ∈ (s1Boot.run [.registerUsbdevice ⟨1⟩ s1Assigned,
        .uevent ⟨true, false⟩ s1Event (s1Host false)]).2 ∧
      (Call.deviceAllow ⟨1⟩ 'c' 189 3 false).isExclusiveAllow = false :=
  ⟨by decide, boot_run_allows_shared (fun _ => containerPnetCfgNew "" false) [] (s1Host false)
    true [.registerUsbdevice ⟨1⟩ s1Assigned, .uevent ⟨true, false⟩ s1Event (s1Host false)] _
    (by decide)⟩

/-- A device registered with `assign` set is allowed in shared mode when it is plugged. -/
theorem assigned_usbdev_allowed_shared :
    hotplugUsbdevIsAssigned s1Assigned = true ∧
      (s1Boot.run [.registerUsbdevice ⟨1⟩ s1Assigned,
        .uevent ⟨true, false⟩ s1Event (s1Host false)]).2 = [.deviceAllow ⟨1⟩ 'c' 189 3 false] := by
  decide

/-- Scenario S1's token is plugged and then removed: the remove detaches the token and denies
nothing, so the allow of `c 189:3` stays. -/
theorem token_remove_keeps_allow :
    (s1Boot.run [.registerUsbdevice ⟨1⟩ s1Token, .uevent ⟨true, false⟩ s1Event (s1Host false),
      .uevent ⟨false, true⟩ s1Event (s1Host false)]).2 =
      [.deviceAllow ⟨1⟩ 'c' 189 3 false, .tokenDetach ⟨1⟩] := by
  decide

end Cml

import Cml.NetifTimer
import Cml.TokenTimer

set_option autoImplicit false

namespace Cml

/-! # Uniqueness of the registration tables

The spec asks that a physical MAC appear in at most one net mapping, that at most one container
hold a token of a given serial, and that a device registered for exclusive assignment share its
mappings with no other container. `hotplug_register_usbdevice` and `hotplug_register_netdev`
append without looking at the table, so the tables keep these properties exactly as long as each
registration adds a mapping that conflicts with none already held. -/

/-- Two USB mappings the spec forbids side by side: different containers, and tokens of one serial
or one device with exclusive assignment asked by either. -/
def usbConflict (a b : DevMapping) : Bool :=
  a.container != b.container &&
    ((a.usbdev.type == .token && b.usbdev.type == .token && a.usbdev.iSerial == b.usbdev.iSerial) ||
      ((a.usbdev.assign || b.usbdev.assign) && a.usbdev.idVendor == b.usbdev.idVendor &&
        a.usbdev.idProduct == b.usbdev.idProduct && a.usbdev.iSerial == b.usbdev.iSerial))

structure UniqueTables (s : Hotplug) : Prop where
  net : s.netdevMappings.Pairwise fun a b => a.mac ≠ b.mac
  usb : s.devMappings.Pairwise fun a b => usbConflict a b = false

theorem uniqueTables_iff (s : Hotplug) :
    UniqueTables s ↔ (s.netdevMappings.Pairwise fun a b => a.mac ≠ b.mac) ∧
      s.devMappings.Pairwise fun a b => usbConflict a b = false :=
  ⟨fun unique => ⟨unique.net, unique.usb⟩, fun both => ⟨both.1, both.2⟩⟩

instance (s : Hotplug) : Decidable (UniqueTables s) :=
  decidable_of_iff _ (uniqueTables_iff s).symm

/-- Whether a turn may run on a conflict-free table: a registration must add a mapping that
conflicts with none already held; every other turn is admitted. -/
def Hotplug.admits (s : Hotplug) : Input → Bool
  | .registerUsbdevice container usbdev =>
      s.devMappings.all fun held => !usbConflict held (hotplugContainerDevMappingNew container usbdev)
  | .registerNetdev container pnetCfg =>
      match hotplugContainerNetdevMappingNew s.pnetCfgs container pnetCfg with
      | some mapping => s.netdevMappings.all fun held => held.mac != mapping.mac
      | none => true
  | _ => true

def Hotplug.admitsAll (s : Hotplug) : List Input → Bool
  | [] => true
  | input :: rest => s.admits input && (s.step input).1.admitsAll rest

theorem usbConflict_usbAddMapping (event : UeventEvent) (serial : String) (a b : DevMapping) :
    usbConflict (usbAddMapping event serial a).1 (usbAddMapping event serial b).1 =
      usbConflict a b := by
  rw [usbAddMapping_bound, usbAddMapping_bound]
  split <;> split <;> rfl

theorem hotplugHandleUsbDevice_usbUnique (s : Hotplug) (actions : Actions) (event : UeventEvent)
    (host : Host) (unique : s.devMappings.Pairwise fun a b => usbConflict a b = false) :
    (hotplugHandleUsbDevice s actions event host).1.devMappings.Pairwise
      fun a b => usbConflict a b = false := by
  rcases hotplugHandleUsbDevice_cases s actions event host with
    same | ⟨serial, -, -, -, same⟩ <;> rw [same]
  · exact unique
  · simpa only [addTimers_eq, usbAddLoop_mappings, List.pairwise_map, usbConflict_usbAddMapping]

theorem pairwise_append_singleton_iff {α : Type} {R : α → α → Prop} {list : List α}
    (pairwise : list.Pairwise R) (x : α) :
    (list ++ [x]).Pairwise R ↔ ∀ held ∈ list, R held x := by
  simp [List.pairwise_append, pairwise]

theorem step_uniqueTables_iff (s : Hotplug) (input : Input) (unique : UniqueTables s) :
    UniqueTables (s.step input).1 ↔ s.admits input = true := by
  cases input with
  | uevent actions event host =>
      obtain ⟨usb, net, -⟩ := hotplugHandleUeventCb_keeps s host actions event
      simp only [Hotplug.step, Hotplug.admits, iff_true, uniqueTables_iff, usb, net]
      exact ⟨unique.net, hotplugHandleUsbDevice_usbUnique s actions event host unique.usb⟩
  | fire id host =>
      have frame := fire_frame s host id
      simp only [Hotplug.step, Hotplug.admits, iff_true, uniqueTables_iff, frame.devMappings,
        frame.netdevMappings]
      exact ⟨unique.net, unique.usb⟩
  | registerUsbdevice container usbdev =>
      simp only [Hotplug.step, Hotplug.admits, uniqueTables_iff, hotplugRegisterUsbdevice,
        pairwise_append_singleton_iff unique.usb, List.all_eq_true, Bool.not_eq_true', and_iff_right
        unique.net]
  | unregisterUsbdevice container usbdev =>
      simp only [Hotplug.admits, iff_true]
      exact ⟨unique.net, unique.usb.sublist (unregisterLast_sublist _ s.devMappings)⟩
  | registerNetdev container pnetCfg =>
      simp only [Hotplug.step, Hotplug.admits, uniqueTables_iff, hotplugRegisterNetdev,
        and_iff_left unique.usb]
      cases hotplugContainerNetdevMappingNew s.pnetCfgs container pnetCfg with
      | none => simpa using unique.net
      | some mapping =>
          simp only [pairwise_append_singleton_iff unique.net, List.all_eq_true, bne_iff_ne]
  | unregisterNetdev container mac =>
      simp only [Hotplug.admits, iff_true]
      exact ⟨unique.net.sublist (unregisterLast_sublist _ s.netdevMappings), unique.usb⟩

theorem run_uniqueTables (s : Hotplug) (inputs : List Input) (unique : UniqueTables s)
    (admitted : s.admitsAll inputs = true) : UniqueTables (s.run inputs).1 := by
  induction inputs generalizing s with
  | nil => exact unique
  | cons input rest ih =>
      rw [Hotplug.admitsAll, Bool.and_eq_true] at admitted
      exact ih _ ((step_uniqueTables_iff s input unique).mpr admitted.1) admitted.2

theorem find_mac_of_pairwise (list : List NetdevMapping)
    (pairwise : list.Pairwise fun a b => a.mac ≠ b.mac) (mapping : NetdevMapping)
    (held : mapping ∈ list) : list.find? (·.mac == mapping.mac) = some mapping := by
  induction list with
  | nil => cases held
  | cons head rest ih =>
      rw [List.pairwise_cons] at pairwise
      rcases List.mem_cons.mp held with rfl | later
      · simp
      · have differs : head.mac ≠ mapping.mac := pairwise.1 mapping later
        simp [List.find?_cons, differs, ih pairwise.2 later]

/-- Registering one MAC, or one token serial, for two containers: both registrations succeed and
both mappings are held. -/
theorem registrations_admit_duplicates :
    ¬ UniqueTables (s2Boot.run [.registerNetdev ⟨1⟩ 0, .registerNetdev ⟨2⟩ 1]).1 ∧
      ¬ UniqueTables (s1Boot.run [.registerUsbdevice ⟨1⟩ s1Token,
        .registerUsbdevice ⟨2⟩ s1Token]).1 := by
  decide

/-- A turn keeps the tables conflict-free exactly when it is admitted, and over a run of admitted
turns they stay so, the first match of `hotplug_netdev_move` being a MAC's only owner. -/
theorem registrations_keep_tables_unique (s : Hotplug) (unique : UniqueTables s) :
    (∀ input, UniqueTables (s.step input).1 ↔ s.admits input = true) ∧
      ∀ inputs, s.admitsAll inputs = true →
        UniqueTables (s.run inputs).1 ∧
          ∀ mapping ∈ (s.run inputs).1.netdevMappings,
            (s.run inputs).1.netdevMappings.find? (·.mac == mapping.mac) = some mapping :=
  ⟨fun input => step_uniqueTables_iff s input unique, fun inputs admitted =>
    have after := run_uniqueTables s inputs unique admitted
    ⟨after, fun mapping held => find_mac_of_pairwise _ after.net mapping held⟩⟩

theorem registrations_keep_tables_unique_in_s2 :
    UniqueTables s2Boot ∧ s2Boot.admitsAll [.registerNetdev ⟨1⟩ 0, .registerNetdev ⟨2⟩ 0] = false ∧
      UniqueTables (s2Boot.run [.registerNetdev ⟨1⟩ 0, .registerUsbdevice ⟨2⟩ s1Token]).1 :=
  have boot : UniqueTables s2Boot := by decide
  ⟨boot, by decide, ((registrations_keep_tables_unique s2Boot boot).2 _ (by decide)).1⟩

end Cml

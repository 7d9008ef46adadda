import Cml.UsbDevice

set_option autoImplicit false

namespace Cml

/-- What the scan learns from `idVendor` or `idProduct`: no file, a read of under four bytes or an
empty conversion (`EOF`), or the value `sscanf("%hx")` leaves. -/
inductive SysfsId where
  | missing
  | unreadable
  | value (id : UInt16)
deriving DecidableEq, Repr

/-- An entry of `/sys/bus/usb/devices`: the serial text `strncmp` sees, `none` without a file,
and the two numbers `sscanf("%d:%d")` leaves, `-1` where a read or conversion fails. -/
structure SysfsUsbDevice where
  idVendor : SysfsId
  idProduct : SysfsId
  serial : Option String
  dev : Option (Int × Int)
deriving DecidableEq, Repr

def scanSerialMatches (usbdev : Usbdev) : Option String → Bool
  | some serial => strncmpEq serial usbdev.iSerial usbdev.iSerial.length
  | none => true

/-- `hotplug_usbdev_sysfs_foreach_cb`: `found ? 1 : 0`, binding only past every test; a failed
`idVendor` read leaves for `out` with `found` still holding the product test. -/
def hotplugUsbdevSysfsForeachCb (usbdev : Usbdev) (device : SysfsUsbDevice) : Int × Usbdev :=
  match device.idProduct, device.idVendor, device.dev with
  | .missing, _, _ | _, .missing, _ | _, _, none => (0, usbdev)
  | .unreadable, _, _ => (0, usbdev)
  | .value idProduct, .unreadable, some _ =>
      (if idProduct == usbdev.idProduct then 1 else 0, usbdev)
  | .value idProduct, .value idVendor, some (major, minor) =>
      let found := idProduct == usbdev.idProduct && idVendor == usbdev.idVendor &&
        scanSerialMatches usbdev device.serial
      if !found then (0, usbdev)
      else if -1 < major && -1 < minor then (1, { usbdev with major, minor })
      else (0, usbdev)

/-- Modelled from the spec: `dir_foreach` of `common/dir.c` is not in the sources. It calls the
callback on every entry of the directory in turn and adds up what the callback returns. -/
def dirForeach {α : Type} (callback : α → SysfsUsbDevice → Int × α) :
    List SysfsUsbDevice → α → Int × α
  | [], data => (0, data)
  | entry :: rest, data =>
      let here := callback data entry
      let later := dirForeach callback rest here.2
      (here.1 + later.1, later.2)

/-- `hotplug_usbdev_set_sysfs_props` over the entries of `/sys/bus/usb/devices`. -/
def hotplugUsbdevSetSysfsProps (usbdev : Usbdev) (devices : List SysfsUsbDevice) :
    Int × Usbdev :=
  let scanned := dirForeach hotplugUsbdevSysfsForeachCb devices usbdev
  if 0 ≥ scanned.1 then (-1, scanned.2) else (0, scanned.2)

def addPathMatches (container : Container) (usbdev : Usbdev) (idVendor idProduct : UInt16)
    (serialFile : Option String) : Bool :=
  match usbSerialOf serialFile with
  | none => false
  | some serial =>
      usbAddMatches idVendor idProduct serial (hotplugContainerDevMappingNew container usbdev)

/-- A registered serial `0001` and a device whose serial is `00012`: the scan binds the device,
the add path does not match it. -/
theorem sysfs_scan_accepts_longer_serial :
    hotplugUsbdevSysfsForeachCb (hotplugUsbdevNew .generic 0x1050 0x0407 "0001" false)
        ⟨.value 0x1050, .value 0x0407, some "00012\n", some (189, 3)⟩ =
      (1, { hotplugUsbdevNew .generic 0x1050 0x0407 "0001" false with major := 189, minor := 3 }) ∧
    addPathMatches ⟨1⟩ (hotplugUsbdevNew .generic 0x1050 0x0407 "0001" false) 0x1050 0x0407
        (some "00012\n") = false := by
  decide

/-! ## What the scan takes -/

def ScanSerialAccepts (usbdev : Usbdev) : Option String → Prop
  | some serial => usbdev.iSerial.data <+: serial.data
  | none => True

instance (usbdev : Usbdev) (serialFile : Option String) :
    Decidable (ScanSerialAccepts usbdev serialFile) :=
  match serialFile with
  | some serial => inferInstanceAs (Decidable (usbdev.iSerial.data <+: serial.data))
  | none => inferInstanceAs (Decidable True)

theorem scanSerialMatches_iff (usbdev : Usbdev) (serialFile : Option String) :
    scanSerialMatches usbdev serialFile = true ↔ ScanSerialAccepts usbdev serialFile := by
  cases serialFile <;> simp [scanSerialMatches, ScanSerialAccepts, strncmpEq_length_iff]

/-- The node an entry binds the device to: its product and vendor are the registered ones, its
serial passes the prefix test, and both numbers of `dev` are non-negative. -/
def scanNode (usbdev : Usbdev) (device : SysfsUsbDevice) : Option (Int × Int) :=
  match device.idProduct, device.idVendor, device.dev with
  | .value idProduct, .value idVendor, some (major, minor) =>
      if idProduct = usbdev.idProduct ∧ idVendor = usbdev.idVendor ∧
          ScanSerialAccepts usbdev device.serial ∧ -1 < major ∧ -1 < minor then
        some (major, minor)
      else none
  | _, _, _ => none

def scanTakesUnbound (usbdev : Usbdev) (device : SysfsUsbDevice) : Bool :=
  match device.idProduct, device.idVendor, device.dev with
  | .value idProduct, .unreadable, some _ => idProduct == usbdev.idProduct
  | _, _, _ => false

def scanTakes (usbdev : Usbdev) (device : SysfsUsbDevice) : Bool :=
  (scanNode usbdev device).isSome || scanTakesUnbound usbdev device

theorem hotplugUsbdevSysfsForeachCb_eq (usbdev : Usbdev) (device : SysfsUsbDevice) :
    hotplugUsbdevSysfsForeachCb usbdev device =
      match scanNode usbdev device with
      | some node => (1, { usbdev with major := node.1, minor := node.2 })
      | none => (if scanTakesUnbound usbdev device then 1 else 0, usbdev) := by
  rcases device with ⟨_ | _ | idVendor, _ | _ | idProduct, serial, _ | ⟨major, minor⟩⟩ <;>
    simp only [hotplugUsbdevSysfsForeachCb, scanNode, scanTakesUnbound, Bool.false_eq_true,
      ↓reduceIte]
  simp only [← scanSerialMatches_iff]
  by_cases tests : idProduct = usbdev.idProduct ∧ idVendor = usbdev.idVendor ∧
      scanSerialMatches usbdev serial = true
  · obtain ⟨rfl, rfl, serialOk⟩ := tests
    by_cases node : -1 < major ∧ -1 < minor <;> simp [serialOk, node]
  · have failed : ¬ (idProduct = usbdev.idProduct ∧ idVendor = usbdev.idVendor ∧
        scanSerialMatches usbdev serial = true ∧ -1 < major ∧ -1 < minor) :=
      fun passed => tests ⟨passed.1, passed.2.1, passed.2.2.1⟩
    have refused : (idProduct == usbdev.idProduct && idVendor == usbdev.idVendor &&
        scanSerialMatches usbdev serial) = false := by
      rw [← Bool.not_eq_true, Bool.and_eq_true, Bool.and_eq_true, beq_iff_eq, beq_iff_eq]
      exact fun ⟨⟨product, vendor⟩, serialOk⟩ => tests ⟨product, vendor, serialOk⟩
    rw [if_neg failed, refused]
    rfl

theorem scanNode_bound (usbdev : Usbdev) (major minor : Int) :
    scanNode { usbdev with major, minor } = scanNode usbdev := rfl

theorem scanTakes_bound (usbdev : Usbdev) (major minor : Int) :
    scanTakes { usbdev with major, minor } = scanTakes usbdev := rfl

theorem dirForeach_foreachCb (devices : List SysfsUsbDevice) :
    ∀ usbdev, dirForeach hotplugUsbdevSysfsForeachCb devices usbdev =
      ((devices.countP (scanTakes usbdev) : Int),
        match (devices.filterMap (scanNode usbdev)).getLast? with
        | none => usbdev
        | some node => { usbdev with major := node.1, minor := node.2 }) := by
  induction devices with
  | nil => intro usbdev; rfl
  | cons device rest ih =>
      intro usbdev
      rw [dirForeach, hotplugUsbdevSysfsForeachCb_eq]
      cases bound : scanNode usbdev device with
      | none =>
          cases unbound : scanTakesUnbound usbdev device <;>
            simp [ih, bound, unbound, scanTakes, Int.add_comm]
      | some node =>
          cases last : (rest.filterMap (scanNode usbdev)).getLast? <;>
            simp [ih, scanNode_bound, scanTakes_bound, bound, scanTakes, last, List.getLast?_cons,
              Int.add_comm]

/-- `hotplug_usbdev_set_sysfs_props` over any listing: `0` exactly when some entry is taken, the
device bound to the last entry that binds it; an entry taken on a failed vendor read binds none. -/
theorem sysfs_scan_binds_last_bound_entry (usbdev : Usbdev) (devices : List SysfsUsbDevice) :
    hotplugUsbdevSetSysfsProps usbdev devices =
      (if devices.any (scanTakes usbdev) then 0 else -1,
        match (devices.filterMap (scanNode usbdev)).getLast? with
        | none => usbdev
        | some node => { usbdev with major := node.1, minor := node.2 }) := by
  have counted : 0 < devices.countP (scanTakes usbdev) ↔ devices.any (scanTakes usbdev) := by
    rw [List.countP_pos_iff, List.any_eq_true]
  rw [hotplugUsbdevSetSysfsProps, dirForeach_foreachCb]
  simp only [← counted]
  split_ifs <;> first | rfl | omega

end Cml

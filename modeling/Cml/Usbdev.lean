import Cml.CString

set_option autoImplicit false

namespace Cml

structure Container where
  id : Nat
deriving DecidableEq, Repr

inductive UsbdevType where
  | generic
  | token
deriving DecidableEq, Repr

/-- `struct hotplug_usbdev`. -/
structure Usbdev where
  iSerial : String
  idVendor : UInt16
  idProduct : UInt16
  major : Int
  minor : Int
  assign : Bool
  type : UsbdevType
deriving DecidableEq, Repr

/-- `hotplug_usbdev_new`: a device not yet bound to a node, `-1:-1`. -/
def hotplugUsbdevNew (type : UsbdevType) (idVendor idProduct : UInt16) (iSerial : String)
    (assign : Bool) : Usbdev :=
  { iSerial, idVendor, idProduct, major := -1, minor := -1, assign, type }

def hotplugUsbdevIsAssigned (usbdev : Usbdev) : Bool :=
  usbdev.assign

/-- `hotplug_container_dev_mapping_t`. -/
structure DevMapping where
  container : Container
  usbdev : Usbdev
  assign : Bool
deriving DecidableEq, Repr

/-- `hotplug_container_dev_mapping_new`. Every field of the device is copied into the mapping's
own device; the mapping's `assign` keeps the zero of `mem_new0`. -/
def hotplugContainerDevMappingNew (container : Container) (usbdev : Usbdev) : DevMapping :=
  { container
    usbdev := { iSerial := usbdev.iSerial, idVendor := usbdev.idVendor,
                idProduct := usbdev.idProduct, major := usbdev.major, minor := usbdev.minor,
                assign := usbdev.assign, type := usbdev.type }
    assign := false }

@[simp] theorem hotplugContainerDevMappingNew_usbdev (container : Container) (usbdev : Usbdev) :
    (hotplugContainerDevMappingNew container usbdev).usbdev = usbdev := rfl

@[simp] theorem hotplugContainerDevMappingNew_container (container : Container)
    (usbdev : Usbdev) : (hotplugContainerDevMappingNew container usbdev).container = container :=
  rfl

@[simp] theorem hotplugContainerDevMappingNew_assign (container : Container) (usbdev : Usbdev) :
    (hotplugContainerDevMappingNew container usbdev).assign = false := rfl

/-! ## The unregister loops -/

section Unregister

variable {α : Type} (p : α → Bool)

def lastMatch : List α → Nat → Option Nat → Option Nat
  | [], _, found => found
  | a :: rest, index, found => lastMatch rest (index + 1) (if p a then some index else found)

/-- An unregister: `-1` with the list untouched when nothing matches, otherwise `list_remove` of
the node found, which is the node at that position since every mapping is a fresh allocation. -/
def unregisterLast (list : List α) : Int × List α :=
  match lastMatch p list 0 none with
  | none => (-1, list)
  | some index => (0, list.eraseIdx index)

theorem lastMatch_append_of_match (list : List α) (a : α) (hit : p a = true) :
    ∀ index found, lastMatch p (list ++ [a]) index found = some (index + list.length) := by
  induction list with
  | nil => simp [lastMatch, hit]
  | cons b rest ih =>
      intro index found
      rw [List.cons_append, lastMatch, ih]
      simp only [List.length_cons, Option.some.injEq]
      omega

theorem lastMatch_of_forall (list : List α) (miss : ∀ a ∈ list, p a = false) :
    ∀ index found, lastMatch p list index found = found := by
  induction list with
  | nil => simp [lastMatch]
  | cons b rest ih =>
      intro index found
      rw [lastMatch, ih (fun a mem => miss a (List.mem_cons_of_mem b mem))]
      simp [miss b (List.mem_cons_self b rest)]

theorem unregisterLast_append (list : List α) (a : α) (hit : p a = true) :
    unregisterLast p (list ++ [a]) = (0, list) := by
  simp [unregisterLast, lastMatch_append_of_match p list a hit,
    List.eraseIdx_append_of_length_le (Nat.le_refl list.length)]

theorem unregisterLast_of_forall (list : List α) (miss : ∀ a ∈ list, p a = false) :
    unregisterLast p list = (-1, list) := by
  simp [unregisterLast, lastMatch_of_forall p list miss]

theorem unregisterLast_sublist (list : List α) : (unregisterLast p list).2.Sublist list := by
  unfold unregisterLast
  split
  · exact .refl list
  · exact List.eraseIdx_sublist list _

end Unregister

/-! ## The USB mapping table -/

def usbdevKeyMatches (container : Container) (usbdev : Usbdev) (mapping : DevMapping) : Bool :=
  mapping.container == container && mapping.usbdev.idVendor == usbdev.idVendor &&
    mapping.usbdev.idProduct == usbdev.idProduct && mapping.usbdev.iSerial == usbdev.iSerial

/-- `hotplug_register_usbdevice` on `hotplug_container_dev_mapping_list`. -/
def hotplugRegisterUsbdevice (list : List DevMapping) (container : Container) (usbdev : Usbdev) :
    Int × List DevMapping :=
  (0, list ++ [hotplugContainerDevMappingNew container usbdev])

/-- `hotplug_unregister_usbdevice` on `hotplug_container_dev_mapping_list`. -/
def hotplugUnregisterUsbdevice (list : List DevMapping) (container : Container)
    (usbdev : Usbdev) : Int × List DevMapping :=
  unregisterLast (usbdevKeyMatches container usbdev) list

theorem usbdevKeyMatches_new (container : Container) (usbdev : Usbdev) :
    usbdevKeyMatches container usbdev (hotplugContainerDevMappingNew container usbdev) = true := by
  simp [usbdevKeyMatches]

end Cml

import Cml.Usbdev

set_option autoImplicit false

namespace Cml

/-- A `uint8_t mac[6]`; `memcmp(a, b, 6)` is equality. -/
structure Mac where
  bytes : List UInt8
  length : bytes.length = 6
deriving DecidableEq, Repr

def hexDigit (c : Char) : Option Nat :=
  if '0' ≤ c ∧ c ≤ '9' then some (c.toNat - '0'.toNat)
  else if 'a' ≤ c ∧ c ≤ 'f' then some (c.toNat - 'a'.toNat + 10)
  else if 'A' ≤ c ∧ c ≤ 'F' then some (c.toNat - 'A'.toNat + 10)
  else none

def hexByte : List Char → Option UInt8
  | [d] => (hexDigit d).map UInt8.ofNat
  | [h, l] => (hexDigit h).bind fun a => (hexDigit l).map fun b => UInt8.ofNat (16 * a + b)
  | _ => none

def splitColons : List Char → List (List Char)
  | [] => [[]]
  | c :: rest =>
      if c = ':' then [] :: splitColons rest
      else match splitColons rest with
        | field :: fields => (c :: field) :: fields
        | [] => [[c]]

/-- Modelled from the spec: `network_str_to_mac_addr` of `common/network.c` is not in the
sources. A MAC string is six hexadecimal bytes separated by colons, as `02:00:00:00:00:01`. -/
def networkStrToMacAddr (macStr : String) : Option Mac :=
  match (splitColons macStr.data).mapM hexByte with
  | some bytes => if fits : bytes.length = 6 then some ⟨bytes, fits⟩ else none
  | none => none

/-- The fields of `container_pnet_cfg_t` the hotplug code reads: the name (a MAC string for a
mapping, an interface name once moved) and the MAC-filter bridge flag. -/
structure PnetCfg where
  pnetName : String
  macFilter : Bool
deriving DecidableEq, Repr

/-- Modelled from the spec: `container_pnet_cfg_new` of `container.c` is not in the sources.
A fresh configuration record with the given name and MAC-filter flag. -/
def containerPnetCfgNew (pnetName : String) (macFilter : Bool) : PnetCfg :=
  { pnetName, macFilter }

/-- Modelled from the spec: `container_pnet_cfg_set_pnet_name` of `container.c` is not in the
sources. It replaces the name of the record it is given, in place. -/
def containerPnetCfgSetPnetName (cfg : PnetCfg) (pnetName : String) : PnetCfg :=
  { cfg with pnetName }

/-- `hotplug_container_netdev_mapping_t`. The configuration is held by address: `pnetCfg`
indexes the containers' configuration records, which the mapping shares. -/
structure NetdevMapping where
  container : Container
  pnetCfg : Nat
  mac : Mac
deriving DecidableEq, Repr

/-- `hotplug_container_netdev_mapping_new`: only a MAC string in the configuration is accepted. -/
def hotplugContainerNetdevMappingNew (cfgs : Nat → PnetCfg) (container : Container)
    (pnetCfg : Nat) : Option NetdevMapping :=
  (networkStrToMacAddr (cfgs pnetCfg).pnetName).map fun mac => { container, pnetCfg, mac }

/-- `hotplug_register_netdev` on `hotplug_container_netdev_mapping_list`. -/
def hotplugRegisterNetdev (cfgs : Nat → PnetCfg) (list : List NetdevMapping)
    (container : Container) (pnetCfg : Nat) : Int × List NetdevMapping :=
  match hotplugContainerNetdevMappingNew cfgs container pnetCfg with
  | none => (-1, list)
  | some mapping => (0, list ++ [mapping])

def netdevKeyMatches (container : Container) (mac : Mac) (mapping : NetdevMapping) : Bool :=
  mapping.container == container && mapping.mac == mac

/-- `hotplug_unregister_netdev` on `hotplug_container_netdev_mapping_list`. -/
def hotplugUnregisterNetdev (list : List NetdevMapping) (container : Container) (mac : Mac) :
    Int × List NetdevMapping :=
  unregisterLast (netdevKeyMatches container mac) list

theorem hotplugContainerNetdevMappingNew_eq_some (cfgs : Nat → PnetCfg) (container : Container)
    (pnetCfg : Nat) (mapping : NetdevMapping) :
    hotplugContainerNetdevMappingNew cfgs container pnetCfg = some mapping ↔
      networkStrToMacAddr (cfgs pnetCfg).pnetName = some mapping.mac ∧
        mapping.container = container ∧ mapping.pnetCfg = pnetCfg := by
  cases mapping
  simp only [hotplugContainerNetdevMappingNew, Option.map_eq_some', NetdevMapping.mk.injEq]
  constructor
  · rintro ⟨mac, parsed, rfl, rfl, rfl⟩
    exact ⟨parsed, rfl, rfl⟩
  · rintro ⟨parsed, rfl, rfl⟩
    exact ⟨_, parsed, rfl, rfl, rfl⟩

theorem hotplugRegisterNetdev_of_parse (cfgs : Nat → PnetCfg) (list : List NetdevMapping)
    (container : Container) (pnetCfg : Nat) (mac : Mac)
    (parsed : networkStrToMacAddr (cfgs pnetCfg).pnetName = some mac) :
    hotplugRegisterNetdev cfgs list container pnetCfg =
      (0, list ++ [⟨container, pnetCfg, mac⟩]) := by
  simp [hotplugRegisterNetdev, hotplugContainerNetdevMappingNew, parsed]

/-- Unregistering right after registering gives back the table before, in both tables, and an
unregister that matches nothing fails and changes nothing. -/
theorem unregister_after_register_restores :
    (∀ (table : List DevMapping) (container : Container) (usbdev : Usbdev),
      (hotplugRegisterUsbdevice table container usbdev).1 = 0 ∧
      hotplugUnregisterUsbdevice (hotplugRegisterUsbdevice table container usbdev).2
        container usbdev = (0, table)) ∧
    (∀ (cfgs : Nat → PnetCfg) (table : List NetdevMapping) (container : Container)
      (pnetCfg : Nat) (mac : Mac), networkStrToMacAddr (cfgs pnetCfg).pnetName = some mac →
      (hotplugRegisterNetdev cfgs table container pnetCfg).1 = 0 ∧
      hotplugUnregisterNetdev (hotplugRegisterNetdev cfgs table container pnetCfg).2
        container mac = (0, table)) ∧
    (∀ (table : List DevMapping) (container : Container) (usbdev : Usbdev),
      (∀ mapping ∈ table, usbdevKeyMatches container usbdev mapping = false) →
      hotplugUnregisterUsbdevice table container usbdev = (-1, table)) ∧
    (∀ (table : List NetdevMapping) (container : Container) (mac : Mac),
      (∀ mapping ∈ table, netdevKeyMatches container mac mapping = false) →
      hotplugUnregisterNetdev table container mac = (-1, table)) := by
  refine ⟨fun table container usbdev => ⟨rfl, ?_⟩,
    fun cfgs table container pnetCfg mac parsed => ?_,
    fun table container usbdev miss => unregisterLast_of_forall _ table miss,
    fun table container mac miss => unregisterLast_of_forall _ table miss⟩
  · exact unregisterLast_append _ table _ (usbdevKeyMatches_new container usbdev)
  · rw [hotplugRegisterNetdev_of_parse cfgs table container pnetCfg mac parsed]
    exact ⟨rfl, unregisterLast_append _ table _ (by simp [netdevKeyMatches])⟩

end Cml

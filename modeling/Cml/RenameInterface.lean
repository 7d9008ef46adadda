import Cml.NetifTimer
import Cml.KeyWrap

set_option autoImplicit false

namespace Cml

/-! # The renamed event of `hotplug_rename_interface`

`hotplug_replace_devpath_new` splices the new name into the devpath at the first occurrence
`strstr` finds, into a buffer of `(strlen(str) + 1) + len_diff` bytes with an `int len_diff`.
`hotplug_rename_interface` renames the interface in the kernel and in cmld's list before it
builds the event, and a later failure returns `NULL` without renaming back. -/

/-- The size `hotplug_replace_devpath_new` allocates: the `size_t` length difference through the
`int len_diff` and back to `size_t`; characters stand for the bytes `strlen` counts. -/
def replaceDevpathAllocSize (str oldstr newstr : String) : Nat :=
  let lenDiff := toInt (toSizeT ((newstr.length : Int) - oldstr.length))
  (str.length + 1 + toSizeT lenDiff) % 2 ^ 64

section Devpath

variable (str oldstr newstr : String)

theorem hotplugReplaceDevpathNew_eq_none_iff :
    hotplugReplaceDevpathNew str oldstr newstr = none ↔ ¬ oldstr.data <:+: str.data := by
  rw [hotplugReplaceDevpathNew, Option.map_eq_none', strstr_eq_none_iff_not_infix]

theorem hotplugReplaceDevpathNew_of_first (k : Nat) (occurs : oldstr.data <+: str.data.drop k)
    (least : ∀ j < k, ¬ oldstr.data <+: str.data.drop j) :
    hotplugReplaceDevpathNew str oldstr newstr =
      some ⟨str.data.take k ++ newstr.data ++ str.data.drop (k + oldstr.length)⟩ := by
  rw [hotplugReplaceDevpathNew, (strstr_eq_some_iff _ _ k).mpr ⟨occurs, least⟩,
    Option.map_some']

theorem hotplugReplaceDevpathNew_length (result : String)
    (replaced : hotplugReplaceDevpathNew str oldstr newstr = some result) :
    result.length + oldstr.length = str.length + newstr.length := by
  obtain ⟨k, found, rfl⟩ := Option.map_eq_some'.mp replaced
  have fits := ((strstr_eq_some_iff _ _ k).mp found).1.length_le
  simp only [String.length, List.length_append, List.length_take, List.length_drop] at fits ⊢
  omega

theorem toSizeT_toInt_diff (a b : Nat) (low : b ≤ a + 2 ^ 31) (high : a < b + 2 ^ 31) :
    toSizeT (toInt (toSizeT ((a : Int) - b))) = toSizeT ((a : Int) - b) := by
  simp only [toSizeT, toInt]
  split_ifs <;> omega

theorem replaceDevpathAllocSize_eq (result : String)
    (replaced : hotplugReplaceDevpathNew str oldstr newstr = some result)
    (low : oldstr.length ≤ newstr.length + 2 ^ 31) (high : newstr.length < oldstr.length + 2 ^ 31)
    (fits : result.length + 1 < 2 ^ 64) :
    replaceDevpathAllocSize str oldstr newstr = result.length + 1 := by
  have traded := hotplugReplaceDevpathNew_length str oldstr newstr result replaced
  rw [replaceDevpathAllocSize, toSizeT_toInt_diff _ _ low high, toSizeT]
  omega

theorem hotplugReplaceDevpathNew_self :
    hotplugReplaceDevpathNew oldstr oldstr newstr = some newstr := by
  rw [hotplugReplaceDevpathNew_of_first oldstr oldstr newstr 0 (List.prefix_refl _)
    fun j below => absurd below (Nat.not_lt_zero j)]
  have gone : oldstr.data.drop (0 + oldstr.length) = [] := by
    rw [Nat.zero_add]
    exact List.drop_length _
  rw [gone, List.take_zero, List.nil_append, List.append_nil]

/-- `hotplug_replace_devpath_new` for all strings: `NULL` exactly when `oldstr` does not occur,
else the first occurrence replaced, in a buffer of the result's length plus one when the length
difference fits an `int`. -/
theorem replace_devpath_fills_buffer_when_difference_fits :
    (hotplugReplaceDevpathNew str oldstr newstr = none ↔ ¬ oldstr.data <:+: str.data) ∧
    (∀ k, oldstr.data <+: str.data.drop k → (∀ j < k, ¬ oldstr.data <+: str.data.drop j) →
      hotplugReplaceDevpathNew str oldstr newstr =
        some ⟨str.data.take k ++ newstr.data ++ str.data.drop (k + oldstr.length)⟩) ∧
    ∀ result, hotplugReplaceDevpathNew str oldstr newstr = some result →
      oldstr.length ≤ newstr.length + 2 ^ 31 → newstr.length < oldstr.length + 2 ^ 31 →
      result.length + 1 < 2 ^ 64 → replaceDevpathAllocSize str oldstr newstr = result.length + 1 :=
  ⟨hotplugReplaceDevpathNew_eq_none_iff str oldstr newstr,
    hotplugReplaceDevpathNew_of_first str oldstr newstr,
    replaceDevpathAllocSize_eq str oldstr newstr⟩

/-- A new name `2 ^ 31` characters longer than `eth0`: `len_diff` wraps to `-2 ^ 31` and the buffer
asked for is `2 ^ 64 - 2 ^ 31 + 5` bytes for a result of `2 ^ 31 + 4` characters. -/
theorem replace_devpath_size_wraps :
    hotplugReplaceDevpathNew "eth0" "eth0" ⟨List.replicate (2 ^ 31 + 4) 'a'⟩ =
        some ⟨List.replicate (2 ^ 31 + 4) 'a'⟩ ∧
      replaceDevpathAllocSize "eth0" "eth0" ⟨List.replicate (2 ^ 31 + 4) 'a'⟩ =
        2 ^ 64 - 2 ^ 31 + 5 := by
  have alloc : ∀ name : String, name.length = 2 ^ 31 + 4 →
      replaceDevpathAllocSize "eth0" "eth0" name = 2 ^ 64 - 2 ^ 31 + 5 := by
    intro name long
    simp only [replaceDevpathAllocSize, long, show "eth0".length = 4 by decide, toSizeT, toInt]
    decide
  exact ⟨hotplugReplaceDevpathNew_self _ _,
    alloc _ (by rw [String.length_mk, List.length_replicate])⟩

end Devpath

def s3UsbNet : UeventEvent := { s2Event with
  devpath := "/devices/pci0/usb1/1-2/1-2:1.0/net/usb1"
  interface := "usb1" }

/-- The rename of `usb1` to `cmleth0` rewrites the bus component of its devpath, the first
occurrence of the name, and keeps the last one. -/
theorem rename_rewrites_bus_component :
    (hotplugRenameInterface s2Boot s2Host s3UsbNet).2.1.map (fun e => (e.interface, e.devpath)) =
      some ("cmleth0", "/devices/pci0/cmleth0/1-2/1-2:1.0/net/usb1") := by
  decide

theorem replace_devpath_fills_buffer_when_difference_fits_for_usb1 :
    replaceDevpathAllocSize s3UsbNet.devpath "usb1" "cmleth0" =
      "/devices/pci0/cmleth0/1-2/1-2:1.0/net/usb1".length + 1 :=
  (replace_devpath_fills_buffer_when_difference_fits _ _ _).2.2 _ (by decide) (by decide)
    (by decide) (by decide)

/-- Scenario S2 with `eth7` in cmld's list of physical interfaces, `c0` booting as the target for
interfaces no mapping claims, and every `uevent_replace_member` failing. -/
def s3Host : Host := { s2Host with replaceMember := fun _ _ => false, c0 := some ⟨0⟩ }

def s3Boot : Hotplug :=
  Hotplug.boot (fun _ => containerPnetCfgNew "02:00:00:00:00:01" false) ["eth7"] s3Host true

/-- The kernel renames `eth7` to `cmleth0`, then the event rewrite fails and the move goes on with
the old name: `c0` gets a configuration naming `eth7` and its event is injected. -/
theorem rename_failure_keeps_old_name :
    (hotplugRenameInterface s3Boot s3Host s2Event).2.1 = none ∧
      s3Host.renameIfi "eth7" "cmleth0" = true ∧
      (hotplugRenameInterface s3Boot s3Host s2Event).1.netifPhys = ["cmleth0"] ∧
      (hotplugNetdevMove s3Boot s3Host s2Event).2.2 =
        [.renameIfi "eth7" "cmleth0", .addNetIface ⟨0⟩ (containerPnetCfgNew "eth7" false),
          .injectIntoNetns s2Event ⟨0⟩] := by
  decide

end Cml
